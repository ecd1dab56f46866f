/-!
XML elements and how they are written.

An element holds text, other elements, or nothing. Each element begins on a line of its own,
two spaces further in than the one around it; text stands between the tags on the same line.
Five characters are written as entities, in text and in attributes.
-/

namespace CatalogFeeds

/-- An element with its attributes: with a text, with elements in it, or empty. -/
inductive Xml where
  | leaf (name : String) (attributes : List (String × String)) (text : String)
  | parent (name : String) (attributes : List (String × String)) (children : List Xml)
  | empty (name : String) (attributes : List (String × String))

namespace Xml

/-- The written form of a character. -/
def escapeChar (c : Char) : List Char :=
  match c with
  | '<' => ['&', 'l', 't', ';']
  | '>' => ['&', 'g', 't', ';']
  | '&' => ['&', 'a', 'm', 'p', ';']
  | '\'' => ['&', 'a', 'p', 'o', 's', ';']
  | '"' => ['&', 'q', 'u', 'o', 't', ';']
  | _ => [c]

/-- The written form of a text. -/
def escape (text : String) : String :=
  String.ofList (text.toList.flatMap escapeChar)

/-- The written form of an attribute, with the space in front of it. -/
def renderAttribute (entry : String × String) : String :=
  " " ++ entry.1 ++ "=\"" ++ escape entry.2 ++ "\""

/-- What a tag holds: the name and the attributes of an element. -/
def tag (name : String) (attributes : List (String × String)) : String :=
  name ++ String.join (attributes.map renderAttribute)

/-- The spaces in front of an element. -/
def indent (depth : Nat) : String :=
  String.ofList (List.replicate (2 * depth) ' ')

mutual

/-- The lines of an element. -/
def renderAt (depth : Nat) : Xml → String
  | leaf name attributes text =>
    indent depth ++ "<" ++ tag name attributes ++ ">" ++ escape text ++ "</" ++ name ++ ">\n"
  | parent name attributes children =>
    indent depth ++ "<" ++ tag name attributes ++ ">\n" ++ renderAll (depth + 1) children ++
      indent depth ++ "</" ++ name ++ ">\n"
  | empty name attributes => indent depth ++ "<" ++ tag name attributes ++ "/>\n"

/-- The lines of elements. -/
def renderAll (depth : Nat) : List Xml → String
  | [] => ""
  | child :: rest => renderAt depth child ++ renderAll depth rest

end

/-- The document with an element as its root. -/
def document (root : Xml) : String :=
  "<?xml version=\"1.0\" encoding=\"UTF-8\"?>\n" ++ renderAt 0 root

end Xml

end CatalogFeeds
