import PageAccessors.Digest.Blake3
import PageAccessors.Generation.Workers
import PageAccessors.Json.Writer
import PageAccessors.Path
import PageAccessors.Source

/-!
# Generation

From a page to the file that gives access to it: the page is checked, its class is made and
written out as a source, and the file knows its place below an output directory and the hash of
the page it comes from. Pages have nothing to do with each other, and may be worked on by several
workers at once; the files come in the order of the pages all the same.
-/

namespace PageAccessors

/-- The path of a package's directory: its segments, one below the other. -/
def packagePath (package : String) : Path :=
  ((package.toList.splitOn '.').map String.ofList).foldl
    (fun path segment => path.join (.ofString segment)) .empty

/-- Where the source of a class belongs below an output directory. -/
def AccessorClass.relativePath (c : AccessorClass) : Path :=
  (packagePath c.package).join (.ofString c.fileName)

/-- The canonical text of a page. -/
def Page.canonicalText (p : Page) : String := Json.render p.toData

/-- The hash that stands for the contents of a page. -/
def Page.inputHash (p : Page) : String := Digest.hex p.canonicalText

/-- A generated file that has not been written yet. -/
structure GeneratedFile where
  declaration : String
  package : String
  className : String
  relativePath : Path
  contents : String
  inputHash : String
  deriving DecidableEq

/-- The file for a page, or what to tell about the page. -/
def generate (options : Options) (p : Page) : Except Diagnostic GeneratedFile := do
  let declaration ← validate p
  let c := declaration.toClass options
  return ⟨p.name, c.package, c.name.text, c.relativePath, c.source, p.inputHash⟩

/-- How many jobs are meant: none means one for each core. -/
def effectiveJobs (cores jobs : Nat) : Nat := if jobs = 0 then cores else jobs

/-- The files for some pages, in their order. -/
def generateAll (cores jobs : Nat) (options : Options) (pages : List Page) :
    List (Except Diagnostic GeneratedFile) :=
  let workers := max 1 (min (effectiveJobs cores jobs) pages.length)
  if workers = 1 then pages.map (generate options)
  else workOff workers pages (generate options)

end PageAccessors
