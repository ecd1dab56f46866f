import CatalogFeeds.Command.Run
import CatalogFeeds.Main
import CatalogFeeds.Proofs.Engine.History
import CatalogFeeds.Proofs.Feed.Dates
import CatalogFeeds.Proofs.Feed.Provenance
import CatalogFeeds.Proofs.Source.Entries
import CatalogFeeds.Proofs.Record.ChannelBatch
import CatalogFeeds.Proofs.Engine.Transparency
import CatalogFeeds.Proofs.Feed.Contents
import CatalogFeeds.Proofs.Files.Confinement
import CatalogFeeds.Proofs.Cache.Map
import CatalogFeeds.Proofs.Engine.Effects
import CatalogFeeds.Proofs.Source.Failures
import CatalogFeeds.Proofs.Feed.Agreement
import CatalogFeeds.Proofs.Path.Written
import CatalogFeeds.Proofs.Source.Search
import CatalogFeeds.Proofs.Path.Composition
import CatalogFeeds.Proofs.Path.Steps
import CatalogFeeds.Proofs.Source.Shifted
import CatalogFeeds.Proofs.Source.Regrouping
import CatalogFeeds.Proofs.Feed.Skipping
import CatalogFeeds.Proofs.Url.Masking
import CatalogFeeds.Proofs.Record.ClockTime
import CatalogFeeds.Proofs.Overrides
import CatalogFeeds.Proofs.Feed.Durations
import CatalogFeeds.Proofs.Source.Preset
import CatalogFeeds.Proofs.Source.Headers
import CatalogFeeds.Proofs.Time.Written
import CatalogFeeds.Proofs.Engine.Timestamps
import CatalogFeeds.Proofs.Cache.Settled
import CatalogFeeds.Proofs.Feed.Characters
import CatalogFeeds.Proofs.Settings.Source
import CatalogFeeds.Proofs.Settings.Http
import CatalogFeeds.Proofs.Path.Literals
import CatalogFeeds.Proofs.Record.Written
import CatalogFeeds.Proofs.Record.Independence
import CatalogFeeds.Proofs.Template.Shortcut
import CatalogFeeds.Proofs.Engine.Validation
