/-!
# Locators

How an element is looked up in a page: a strategy, the text it looks for, and whether one element
or all matching elements are wanted. Each strategy has its name in descriptors, the delegate that
looks it up lazily, and the factory of `By` that looks it up at once, which only the lookup by id
or name lacks.
-/

namespace PageAccessors

/-- The lookup strategies, in the alphabetical order of their names. -/
inductive Strategy where
  | className
  | css
  | id
  | idOrName
  | linkText
  | name
  | partialLinkText
  | tagName
  | xpath
  deriving DecidableEq, Repr

namespace Strategy

def all : List Strategy :=
  [className, css, id, idOrName, linkText, name, partialLinkText, tagName, xpath]

/-- The name of a strategy in descriptors and messages. -/
def toString : Strategy → String
  | className => "class_name"
  | css => "css"
  | id => "id"
  | idOrName => "id_or_name"
  | linkText => "link_text"
  | name => "name"
  | partialLinkText => "partial_link_text"
  | tagName => "tag_name"
  | xpath => "xpath"

instance : ToString Strategy := ⟨toString⟩

/-- The strategy of a name. -/
def ofString? (text : String) : Option Strategy := all.find? fun s => s.toString = text

theorem ofString?_toString (s : Strategy) : ofString? s.toString = some s := by
  cases s <;> decide

/-- The delegate of the runtime library that looks an element up when it is first used. -/
def delegate : Strategy → String
  | className => "className"
  | css => "css"
  | id => "id"
  | idOrName => "idOrName"
  | linkText => "linkText"
  | name => "name"
  | partialLinkText => "partialLinkText"
  | tagName => "tagName"
  | xpath => "xpath"

/-- The factory of `By` that looks an element up at once. -/
def byFactory? : Strategy → Option String
  | css => some "cssSelector"
  | idOrName => none
  | s => some s.delegate

/-- The strategies that a descriptor may ask for; the lookup by id or name is the default only. -/
def isMarker (s : Strategy) : Bool := s ≠ idOrName

/-- The place of a strategy in the order of the names. -/
def rank (s : Strategy) : Nat := all.idxOf s

instance : LE Strategy := ⟨fun a b => a.rank ≤ b.rank⟩

instance (a b : Strategy) : Decidable (a ≤ b) := inferInstanceAs (Decidable (a.rank ≤ b.rank))

/-- Strategies in the order of their names. -/
def sort (strategies : List Strategy) : List Strategy := strategies.mergeSort fun a b => a ≤ b

end Strategy

/-- Whether a lookup gives one element or all that match. -/
inductive Cardinality where
  | single
  | collection
  deriving DecidableEq, Repr

namespace Cardinality

def ofCollect (collect : Bool) : Cardinality := if collect then .collection else .single

/-- The type that a member is declared with. -/
def typeName : Cardinality → String
  | single => "WebElement"
  | collection => "WebElements"

def isCollection (c : Cardinality) : Bool := c = .collection

end Cardinality

/-- A lookup: the strategy, the text it looks for with its placeholders, and what it gives. -/
structure Locator where
  strategy : Strategy
  value : String
  cardinality : Cardinality
  deriving DecidableEq

/-- The lookup of an entry that asks for none: one element, by its name. -/
def Locator.default (entry : String) : Locator := ⟨.idOrName, entry, .single⟩

end PageAccessors
