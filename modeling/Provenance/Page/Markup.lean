/-!
# Markup

A page is a tree of elements and texts.
-/

namespace Provenance

/-- The value of an attribute. -/
inductive AttributeValue where
  | text (s : String)
  | flag (b : Bool)
  deriving DecidableEq

/-- An attribute of an element. -/
structure Attribute where
  name : String
  value : AttributeValue
  deriving DecidableEq

/-- A text, or an element with attributes and children. -/
inductive Markup where
  | text (s : String)
  | element (tag : String) (attributes : List Attribute) (children : List Markup)

namespace Attribute

/-- An attribute with a text. -/
def text (name value : String) : Attribute := ⟨name, .text value⟩

/-- The class of an element. -/
def cls (value : String) : Attribute := text "class" value

/-- A property of an element that is on or off. -/
def prop (name : String) (value : Bool) : Attribute := ⟨"prop:" ++ name, .flag value⟩

/-- An attribute that stands only where it holds. -/
def mark (name : String) (holds : Bool) : List Attribute :=
  if holds then [⟨name, .flag true⟩] else []

end Attribute

namespace Markup

/-- An element without attributes that holds a text. -/
def labelled (tag label : String) : Markup := element tag [] [text label]

/-- An entry of a selector. -/
def option (value label : String) (selected : Bool) : Markup :=
  element "option" (Attribute.text "value" value :: Attribute.mark "selected" selected) [text label]

/-- A check box. -/
def checkbox (props : List Attribute) : Markup :=
  element "input" (Attribute.text "type" "checkbox" :: props) []

end Markup

end Provenance
