import PageAccessors.Inputs

/-!
# Inspection

The runs that write nothing: one judges the pages of descriptor files, and the other compares
generated files with their manifests.
-/

namespace PageAccessors

/-- One more page; whether it obeys the rules. -/
def checkPage (a : Account) (p : SourcedPage) : Account × Bool :=
  match validate p.page with
  | .ok declaration => (a.pass (.accepted p.label declaration.entries.length), true)
  | .error d => (a.fail (.refused p.label (.failure (.diagnostic d))), false)

/-- Judges the pages of some files; the result is their number. -/
def checkPages (s : Settings) (files : List Path) (t : FileTree) : Outcome Nat :=
  let inputs := Inputs.load t s.failFast files
  let a := takeEach s.failFast checkPage inputs.account inputs.pages
  { tree := t
    events := (a.close "page(s)" a.total).events
    result := if a.failed > 0 then .error (.generation a.failed a.total) else .ok a.total }

/-- One more generated file; whether it is as it was written. -/
def verifyFile (t : FileTree) (a : Account) (file : Path) : Account × Bool :=
  match verify t file with
  | .ok () => (a.pass (.intact file), true)
  | .error f => (a.fail (.altered f), false)

/-- Verifies the generated files below a directory; the result is their number. The summary counts
all files that were found. -/
def verifyFiles (s : Settings) (directory : Path) (t : FileTree) : Outcome Nat :=
  if t.isDirectory directory then
    match findGenerated t directory with
    | [] => { tree := t, events := [.noFiles directory], result := .ok 0 }
    | files =>
      let a := takeEach s.failFast (verifyFile t) {} files
      { tree := t
        events := (a.close "file(s)" files.length).events
        result :=
          if a.failed > 0 then .error (.verification a.failed files.length)
          else .ok files.length }
  else { tree := t, result := .error (.notDirectory directory) }

end PageAccessors
