import PageAccessors.Report

/-!
# Inputs

The descriptor files that a run works on, and the pages in them. A file that cannot be loaded is
told and counted, and the pages of the others are worked on all the same.
-/

namespace PageAccessors

/-- A page with the file that it comes from. -/
structure SourcedPage where
  source : Path
  page : Page
  deriving DecidableEq

def SourcedPage.label (p : SourcedPage) : Label := ⟨p.source, p.page.name⟩

/-- The pages that have been loaded, and an account of the files that have not. -/
structure Inputs where
  pages : List SourcedPage := []
  account : Account := {}

namespace Inputs

/-- One more file; whether it could be loaded. -/
def add (t : FileTree) (i : Inputs) (file : Path) : Inputs × Bool :=
  match loadPages t file with
  | .ok pages =>
    let account := if pages.isEmpty then i.account.note (.noPages file) else i.account
    (⟨i.pages ++ pages.map (⟨file, ·⟩), account⟩, true)
  | .error f => ({ i with account := i.account.fail (.unreadable file f) }, false)

/-- The pages of some files. -/
def load (t : FileTree) (failFast : Bool) (files : List Path) : Inputs :=
  takeEach failFast (add t) {} files

/-- How many files could not be loaded. -/
def unreadable (i : Inputs) : Nat := i.account.failed

end Inputs

end PageAccessors
