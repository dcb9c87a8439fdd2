import PageAccessors.Declaration
import PageAccessors.Options

/-!
# Accessor classes

The class that gives access to the elements of a page. An entry without placeholders becomes a
property that looks its element up lazily, and any other a function with a parameter for each
placeholder. A class imports what its members refer to and nothing else, in ascending order.
-/

namespace PageAccessors

/-- A member that looks its elements up when it is first used. -/
structure Property where
  name : Identifier
  locator : Locator
  deriving DecidableEq

/-- A member that looks an element up by a text with its arguments filled in. -/
structure Function where
  name : Identifier
  strategy : Strategy
  params : List Identifier
  template : Template
  deriving DecidableEq

inductive Member where
  | property (p : Property)
  | function (f : Function)
  deriving DecidableEq

namespace Member

def name : Member → Identifier
  | property p => p.name
  | function f => f.name

/-- What a member gives; a function gives one element. -/
def cardinality : Member → Cardinality
  | property p => p.locator.cardinality
  | function _ => .single

def strategy : Member → Strategy
  | property p => p.locator.strategy
  | function f => f.strategy

end Member

/-! ## Imports -/

/-- The package of the browser driver. -/
def driverPackage : String := "org.openqa.selenium"

/-- The package that holds the lookup by id or name. -/
def pageFactoryPackage : String := "org.openqa.selenium.support.pagefactory"

def qualified (package symbol : String) : String := package ++ "." ++ symbol

/-- The import of the type of a member's result. -/
def resultImport (runtime : String) : Cardinality → String
  | .single => qualified driverPackage "WebElement"
  | .collection => qualified runtime "WebElements"

/-- The import of what a member looks its elements up with. -/
def lookupImport (runtime : String) : Member → String
  | .property p => qualified runtime p.locator.strategy.delegate
  | .function f =>
    match f.strategy.byFactory? with
    | some _ => qualified driverPackage "By"
    | none => qualified pageFactoryPackage "ByIdOrName"

/-- What a member refers to. -/
def Member.imports (runtime : String) (m : Member) : List String :=
  [resultImport runtime m.cardinality, lookupImport runtime m]

/-- Puts a text into an ascending list, unless it is there already. -/
def insertText (x : String) : List String → List String
  | [] => [x]
  | y :: rest =>
    if x < y then x :: y :: rest else if x = y then y :: rest else y :: insertText x rest

/-- The texts of a list in ascending order, each once. -/
def ascending (texts : List String) : List String := texts.foldr insertText []

/-! ## Classes -/

/-- A class with its header, its place, the address it opens, and its members. -/
structure AccessorClass where
  header : String
  name : Identifier
  package : String
  imports : List String
  initializer : Option String
  members : List Member
  deriving DecidableEq

namespace AccessorClass

/-- A class without members, which needs the driver. -/
def empty (name : Identifier) (package : String) (options : Options) : AccessorClass :=
  ⟨options.provenance, name, package, [qualified driverPackage "WebDriver"], none, []⟩

/-- Opens an address when the class is made. -/
def opening (c : AccessorClass) (url : String) : AccessorClass := { c with initializer := some url }

/-- Adds a member and what it refers to. -/
def add (c : AccessorClass) (runtime : String) (m : Member) : AccessorClass :=
  { c with
    imports := (m.imports runtime).foldl (fun imports x => insertText x imports) c.imports
    members := c.members ++ [m] }

def fileName (c : AccessorClass) : String := c.name.text ++ ".kt"

end AccessorClass

/-- The package of the classes generated for pages of a package. -/
def generatedPackage (package : String) : String :=
  if package.isEmpty then "generated" else package ++ ".generated"

/-- The function for a lookup with placeholders; those that are no identifiers are left out, of
which a declaration has none. -/
def functionOf (name : Identifier) (strategy : Strategy) (template : Template) : Function :=
  ⟨name, strategy,
    template.parameters.filterMap fun p => (Identifier.ofString p).toOption, template⟩

/-- The member for an entry. -/
def DeclaredEntry.member (e : DeclaredEntry) : Member :=
  let locator := e.resolve
  let template := Template.ofString locator.value
  if template.isParameterized then .function (functionOf e.name locator.strategy template)
  else .property ⟨e.name, locator⟩

/-- The class for a declaration, with a member for each entry, in their order. -/
def Declaration.toClass (d : Declaration) (options : Options) : AccessorClass :=
  let start := AccessorClass.empty d.outputName (generatedPackage d.package) options
  let start := match d.url with
    | none => start
    | some url => start.opening url
  d.entries.foldl (fun c e => c.add options.runtimePackage e.member) start

/-- What no member changes is as it was before the members of some entries were added. -/
theorem foldl_add_eq {β : Type} (f : AccessorClass → β) (runtime : String)
    (add : ∀ c m, f (c.add runtime m) = f c) : ∀ (entries : List DeclaredEntry) (c : AccessorClass),
    f (entries.foldl (fun c e => c.add runtime e.member) c) = f c
  | [], _ => rfl
  | e :: entries, c => (foldl_add_eq f runtime add entries _).trans (add c e.member)

end PageAccessors
