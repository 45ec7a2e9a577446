import StorageReply.Xml.Element

/-!
# Writing elements

Elements without attributes as text. An element without text and children is written as one tag;
ampersands and angle brackets in text are written as references.

Main definitions:

* `escape`: character data in its written form;
* `Element.write`: the text of an element.
-/

namespace StorageReply.Xml

/-- A character of character data in its written form. -/
def escapeChar (c : Char) : List Char :=
  if c = '&' then ['&', 'a', 'm', 'p', ';']
  else if c = '<' then ['&', 'l', 't', ';']
  else if c = '>' then ['&', 'g', 't', ';']
  else [c]

/-- Character data in its written form. -/
def escape (s : List Char) : List Char := s.flatMap escapeChar

/-- A start tag. -/
def startTag (name : List Char) : List Char := '<' :: name ++ ['>']

/-- An end tag. -/
def endTag (name : List Char) : List Char := '<' :: '/' :: name ++ ['>']

/-- The tag of an element without content. -/
def emptyTag (name : List Char) : List Char := '<' :: name ++ [' ', '/', '>']

mutual

/-- The text of an element and of its tail. -/
def writeElement : Element → List Char
  | ⟨tag, _, text, children, tail⟩ =>
    let name := tag.name.toList
    (if text.isEmpty && children.isEmpty then emptyTag name
      else startTag name ++ escape text.toList ++ writeElements children ++ endTag name)
      ++ escape tail.toList

/-- The text of several elements. -/
def writeElements : List Element → List Char
  | [] => []
  | e :: rest => writeElement e ++ writeElements rest

end

/-- The text of an element. -/
def Element.write (e : Element) : String := String.ofList (writeElement e)

@[simp] theorem escape_nil : escape [] = [] := rfl

theorem escape_append (s t : List Char) : escape (s ++ t) = escape s ++ escape t := by
  simp [escape]

theorem writeElements_append (a b : List Element) :
    writeElements (a ++ b) = writeElements a ++ writeElements b := by
  induction a with
  | nil => simp [writeElements]
  | cons e rest ih => simp [writeElements, ih]

end StorageReply.Xml
