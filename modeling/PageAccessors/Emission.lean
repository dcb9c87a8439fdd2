import PageAccessors.Inputs

/-!
# Emission

The run that writes the files of all pages below the output directory. Pages are taken in their
order. The first page for a place claims it, so that no page of a run overwrites the file of
another one, and a page that fails does not keep the others from being written.
-/

namespace PageAccessors

/-- The command that generates the files of a descriptor file again. -/
def regenerateCommand (source output : Path) : String :=
  "pagegen generate " ++ source.text ++ " -o " ++ output.text

/-- How far a run has come: the files, the places that pages have claimed, and the paths that have
been written. -/
structure Emission where
  tree : FileTree
  claims : List (List Component × Label) := []
  written : List Path := []
  account : Account := {}

namespace Emission

/-- Puts the file of a page in its place, unless that has been claimed. -/
def place (s : Settings) (time : String) (e : Emission) (p : SourcedPage) (file : GeneratedFile) :
    Emission × Except PageProblem Path :=
  match e.claims.lookup file.relativePath.components with
  | some first => (e, .error (.taken file.relativePath first))
  | none =>
    let command := if s.manifests then some (regenerateCommand p.source s.output) else none
    let (result, tree) := (writeGenerated time s.output file command).run e.tree
    let claimed := { e with
      tree := tree
      claims := (file.relativePath.components, p.label) :: e.claims }
    match result with
    | .ok path => ({ claimed with account := claimed.account.note (.generated file) }, .ok path)
    | .error fault => (claimed, .error (.failure (.files fault)))

/-- One more page, with what was generated for it; whether it was written. -/
def add (s : Settings) (time : String) (e : Emission)
    (item : SourcedPage × Except Diagnostic GeneratedFile) : Emission × Bool :=
  let (p, generated) := item
  let (e, result) := match generated with
    | .ok file => e.place s time p file
    | .error d => (e, .error (.failure (.diagnostic d)))
  match result with
  | .ok path =>
    ({ e with
        written := e.written ++ [path]
        account := e.account.pass (.written p.label path) }, true)
  | .error problem => ({ e with account := e.account.fail (.refused p.label problem) }, false)

end Emission

/-- What a run takes from the machine that it runs on. -/
structure Machine where
  cores : Nat
  time : String

/-- Generates and writes the pages of some files; the result is the paths that were written. -/
def emitPages (m : Machine) (s : Settings) (files : List Path) (t : FileTree) :
    Outcome (List Path) :=
  let inputs := Inputs.load t s.failFast files
  if s.failFast && inputs.unreadable > 0 then
    { tree := t
      events := inputs.account.events
      result := .error (.generation inputs.unreadable (inputs.unreadable + inputs.pages.length)) }
  else
    let generated := generateAll m.cores s.jobs s.options (inputs.pages.map SourcedPage.page)
    let e := takeEach s.failFast (Emission.add s m.time) { tree := t, account := inputs.account }
      (inputs.pages.zip generated)
    { tree := e.tree
      events := (e.account.close "page(s)" e.account.total).events
      result :=
        if e.account.failed > 0 then .error (.generation e.account.failed e.account.total)
        else .ok e.written }

end PageAccessors
