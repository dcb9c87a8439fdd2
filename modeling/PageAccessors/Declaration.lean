import PageAccessors.Identifier
import PageAccessors.Page
import PageAccessors.Template
import PageAccessors.Url

/-!
# Declarations

A page that has been found to obey the rules: it is an enumeration with at least one entry, no
entry has more than one marker, the start address is absolute with a host, every name is an
identifier, entry names are distinct, and a lookup with placeholders asks for one element.

The rules are checked in that order for the page as a whole, and the last three entry by entry, and
the first one that is broken is reported as a `Diagnostic`. What is an address, and which host it
has, is for a reader of addresses to say: any one in `validateWith`, and `Url.parse` in `validate`.
-/

namespace PageAccessors

/-- A rule that a page breaks, and where. -/
inductive PageFault where
  | notAnEnum (kind : Kind)
  | emptyEnum
  | multipleLocators (entry : String) (strategies : List Strategy)
  | invalidUrl (url : String) (reason : String)
  | invalidIdentifier (name : String) (fault : NameFault)
  | duplicateEntry (entry : String)
  | collectionTemplate (entry : String)
  deriving DecidableEq

/-- A rule that the page of a name breaks. -/
structure Diagnostic where
  page : String
  fault : PageFault
  deriving DecidableEq

def Diagnostic.message (d : Diagnostic) : String :=
  let page := "\"" ++ d.page ++ "\""
  match d.fault with
  | .notAnEnum kind =>
    "Only enum declarations can describe a page. Please make sure " ++ page ++
      " is an enum (found " ++ kind.toString ++ ")."
  | .emptyEnum => "At least one entry shall be defined in " ++ page
  | .multipleLocators entry strategies =>
    "More than one locator found on \"" ++ entry ++ "\" in " ++ page ++ ": " ++
      ", ".intercalate (strategies.map Strategy.toString)
  | .invalidUrl url reason =>
    "Invalid startup URL '" ++ url ++ "' on " ++ page ++ ": " ++ reason
  | .invalidIdentifier name fault =>
    "Invalid identifier '" ++ name ++ "' in " ++ page ++ ": " ++ fault.message
  | .duplicateEntry entry =>
    "Entry \"" ++ entry ++ "\" is declared more than once in " ++ page
  | .collectionTemplate entry =>
    "Entry \"" ++ entry ++ "\" in " ++ page ++ " has placeholders and requests a collection; " ++
      "parameterized locators always resolve a single element"

/-- An entry of a declaration, with the lookup it asked for, if it did. -/
structure DeclaredEntry where
  name : Identifier
  locator : Option Locator
  deriving DecidableEq

/-- The lookup of an entry: the one it asked for, or else one element by the entry's name. -/
def DeclaredEntry.resolve (e : DeclaredEntry) : Locator :=
  e.locator.getD (.default e.name.text)

/-- A page that obeys the rules. -/
structure Declaration where
  name : Identifier
  package : String
  className : Option Identifier
  url : Option String
  entries : List DeclaredEntry
  deriving DecidableEq

/-- The name of the class and of its file: the page's own, unless another was asked for. -/
def Declaration.outputName (d : Declaration) : Identifier := d.className.getD d.name

/-! ## The rules -/

/-- A name that has to be an identifier. -/
def checkName (name : String) : Except PageFault Identifier :=
  (Identifier.ofString name).mapError (.invalidIdentifier name)

/-- The segments of a package between its dots; the empty package has none. -/
def packageSegments (package : String) : List String :=
  if package.isEmpty then [] else (package.toList.splitOn '.').map String.ofList

/-- The first entry with more than one marker breaks the rule. -/
def checkMarkers (entries : List Entry) : Except PageFault Unit :=
  match entries.find? fun e => e.markers.length > 1 with
  | none => .ok ()
  | some e => .error (.multipleLocators e.name (Strategy.sort (e.markers.map Marker.strategy)))

/-- An address has a host, and one that is not empty. -/
def checkUrl (parse : Url.Parser) (url : Option String) : Except PageFault Unit :=
  match url with
  | none => .ok ()
  | some text => do
    let host ← (parse text).mapError (.invalidUrl text)
    if (host.getD "").isEmpty then throw (.invalidUrl text "URL has no host")

/-- The lookup that an entry asks for. -/
def Entry.locator? (e : Entry) : Option Locator := e.markers.head?.map (·.locator e.name)

/-- The placeholders of a lookup are names, and it asks for one element if it has any. -/
def checkTemplate (entry : String) (locator : Locator) : Except PageFault Unit := do
  let template := Template.ofString locator.value
  template.parameters.forM fun name => do discard (checkName name)
  if template.isParameterized && locator.cardinality.isCollection then
    throw (.collectionTemplate entry)

/-- One entry, after entries with the names `seen`. -/
def checkEntry (seen : List String) (e : Entry) : Except PageFault DeclaredEntry := do
  let name ← checkName e.name
  match e.locator? with
  | none => pure ()
  | some locator => checkTemplate e.name locator
  if seen.contains e.name then throw (.duplicateEntry e.name)
  pure ⟨name, e.locator?⟩

/-- The entries, in their order, after entries with the names `seen`. -/
def checkEntries (seen : List String) : List Entry → Except PageFault (List DeclaredEntry)
  | [] => .ok []
  | e :: rest => do
    let entry ← checkEntry seen e
    let entries ← checkEntries (e.name :: seen) rest
    pure (entry :: entries)

/-- The declaration of a page, or the first rule that the page breaks. -/
def Page.check (parse : Url.Parser) (p : Page) : Except PageFault Declaration := do
  if p.kind ≠ .enum then throw (.notAnEnum p.kind)
  if p.entries.isEmpty then throw .emptyEnum
  checkMarkers p.entries
  checkUrl parse p.url
  let name ← checkName p.name
  let className ← p.className.mapM checkName
  (packageSegments p.package).forM fun segment => do discard (checkName segment)
  let entries ← checkEntries [] p.entries
  pure ⟨name, p.package, className, p.url, entries⟩

/-- The declaration of a page, or what to tell about the page, by a reader of addresses. -/
def validateWith (parse : Url.Parser) (p : Page) : Except Diagnostic Declaration :=
  (p.check parse).mapError (⟨p.name, ·⟩)

/-- The declaration of a page, or what to tell about the page. -/
def validate (p : Page) : Except Diagnostic Declaration := validateWith Url.parse p

end PageAccessors
