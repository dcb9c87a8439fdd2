import PageAccessors.Proofs.InPlace

/-!
# Files told as written

With manifests, a page of a run is refused, or fails to be written, or its file is at its path with
its manifest (`Emission.add_spec`). Pages with files of their own are not in each other's way
(`places_ne`), so that what was written stays: every file that a run tells as written is at its path
with its manifest in the end, and was the first of the run for its place (`written_emitPages`). A
file that is in no place where the run writes is left as it was (`FileTree.Holds.emitPages`).
-/

namespace PageAccessors

open FileTree

/-! ## Files with manifests -/

/-- The manifest that a run at some time writes beside the file of a page. -/
def Emitted.manifest (s : Settings) (time : String) (x : Emitted) : Manifest :=
  .ofContents (x.path s) x.file.contents
    (x.file.provenance time (regenerateCommand x.page.source s.output))

/-- The file of a page is at its path, and so is its manifest. -/
structure Emitted.HeldBy (s : Settings) (time : String) (t : FileTree) (x : Emitted) : Prop where
  file : t.Holds (x.path s) x.file.contents
  manifest : t.Holds (x.path s).manifest (x.manifest s time).render

section

variable {s : Settings} {time : String} {t t' : FileTree} {x y : Emitted}

/-- Neither a file nor its manifest is in the place of the file or the manifest of another page. -/
theorem places_ne (hx : x.IsGenerated s) (hy : y.IsGenerated s) (hne : x.claim ≠ y.claim)
    (home : Location) :
    ((x.path s).place home ≠ (y.path s).place home ∧
      (x.path s).place home ≠ (y.path s).manifest.place home) ∧
    ((x.path s).manifest.place home ≠ (y.path s).place home ∧
      (x.path s).manifest.place home ≠ (y.path s).manifest.place home) := by
  have file : (x.path s).place home ≠ (y.path s).place home ∧
      (x.path s).place home ≠ (y.path s).manifest.place home :=
    place_ne_of_generate hx hy hne s.output home
  have other := place_ne_of_generate hy hx hne.symm s.output home
  obtain ⟨_, _, ends⟩ := hx.ends
  obtain ⟨_, _, ends'⟩ := hy.ends
  refine ⟨file, other.2.symm, fun he => file.1 ?_⟩
  rw [ends.manifest_place, ends'.manifest_place] at he
  refine Location.manifest_inj ?_ ?_ he
  · rw [ends.place]
    nofun
  · rw [ends'.place]
    nofun

theorem Emitted.HeldBy.rewritten (h : x.HeldBy s time t) (hx : x.IsGenerated s)
    (hy : y.IsGenerated s) (hne : x.claim ≠ y.claim) (w : t.Rewritten (y.path s) t') :
    x.HeldBy s time t' := by
  obtain ⟨⟨hp, hm⟩, hp', hm'⟩ := places_ne hx hy hne t.home
  exact ⟨h.file.rewritten w hp hm, h.manifest.rewritten w hp' hm'⟩

theorem FileTree.InPlace.rewritten (h : t.InPlace (x.path s)) (hx : x.IsGenerated s)
    (hy : y.IsGenerated s) (hne : x.claim ≠ y.claim) (w : t.Rewritten (y.path s) t') :
    t'.InPlace (x.path s) := by
  obtain ⟨⟨hp, hm⟩, hp', hm'⟩ := places_ne hx hy hne t.home
  obtain ⟨⟨bytes, file⟩, ⟨bytes', beside⟩⟩ := And.intro h.file h.manifest
  have kept := w.other _ hp hm
  have kept' := w.other _ hp' hm'
  rw [file] at kept
  rw [beside] at kept'
  constructor
  · rw [w.onward.home]
    exact w.onward.locate h.located
  · rw [w.onward.home]
    exact w.onward.locate h.beside
  · rw [w.onward.home]
    exact ⟨bytes, kept.eq_some⟩
  · rw [w.onward.home]
    exact ⟨bytes', kept'.eq_some⟩

/-- Writing the file of a page with its manifest changes these two only, and if it is told as
written, both are there. Where both are in place, it is written. -/
theorem writeGenerated_manifest_spec (h : x.IsGenerated s) (time : String) (t : FileTree) :
    ∃ r t', (writeGenerated time s.output x.file
        (some (regenerateCommand x.page.source s.output))).apply t = (r, t') ∧
      t.Rewritten (x.path s) t' ∧
      (∀ path, r = .ok path → path = x.path s ∧ x.HeldBy s time t') ∧
      (t.InPlace (x.path s) → r = .ok (x.path s)) := by
  obtain ⟨front, name, ends⟩ := h.ends
  obtain ⟨r, t', hw, rewritten, -⟩ := writeWithManifest_rewritten ends x.file.contents
    (x.file.provenance time (regenerateCommand x.page.source s.output)) t
  have hw' : (Disk.writeOutput (x.path s) x.file.contents
      ((some (regenerateCommand x.page.source s.output)).map (x.file.provenance time))).apply t =
      (r, t') := hw
  rw [writeGenerated, ← Emitted.path, Disk.apply_bind, hw']
  cases r with
  | error e =>
    refine ⟨_, t', rfl, rewritten, by simp, fun ready => ?_⟩
    obtain ⟨_, hok⟩ := writeWithManifest_in_place ends ready x.file.contents _
    cases hw.symm.trans hok
  | ok u =>
    refine ⟨_, t', rfl, rewritten, fun path he => ⟨(Except.ok.inj he).symm, ?_⟩, fun _ => rfl⟩
    obtain ⟨-, file, manifest⟩ := writeWithManifest_holds ends hw
    exact ⟨file, manifest⟩

namespace Emission

/-- A page is refused if its place is claimed or it has no file; otherwise it claims its place, and
is written with its manifest, or it fails to be, which it never does where both are in place. -/
theorem add_spec (on : s.manifests = true) (time : String) (e : Emission) (p : SourcedPage) :
    (∃ problem, e.add s time (p, generate s.options p.page) =
        ({ e with account := e.account.fail (.refused p.label problem) }, false) ∧
      ∀ x : Emitted, x.page = p → x.IsGenerated s → e.claims.lookup x.claim ≠ none) ∨
    ∃ x : Emitted, x.page = p ∧ x.IsGenerated s ∧ e.claims.lookup x.claim = none ∧
      ∃ tree, e.tree.Rewritten (x.path s) tree ∧
        ((x.HeldBy s time tree ∧ e.add s time (p, generate s.options p.page) =
          (⟨tree, (x.claim, p.label) :: e.claims, e.written ++ [x.path s],
            (e.account.note (.generated x.file)).pass (.written p.label (x.path s))⟩, true)) ∨
        ∃ fault, ¬ e.tree.InPlace (x.path s) ∧ e.add s time (p, generate s.options p.page) =
          (⟨tree, (x.claim, p.label) :: e.claims, e.written,
            e.account.fail (.refused p.label (.failure (.files fault)))⟩, false)) := by
  rcases e.add_cases s time p (generate s.options p.page) with
    ⟨problem, he, claimed⟩ | ⟨file, r, tree, hg, free, hw, step⟩
  · refine .inl ⟨problem, he, ?_⟩
    rintro x rfl hx
    exact claimed x.file hx
  let x : Emitted := ⟨p, file⟩
  have hx : x.IsGenerated s := hg
  rw [if_pos on] at hw
  obtain ⟨r', tree', hw', rewritten, ok, ready⟩ := writeGenerated_manifest_spec hx time e.tree
  obtain ⟨rfl, rfl⟩ := Prod.mk.inj (hw.symm.trans hw')
  refine .inr ⟨x, rfl, hx, free, tree, rewritten, ?_⟩
  rcases step with ⟨path, rfl, he⟩ | ⟨fault, rfl, he⟩
  · obtain ⟨rfl, held⟩ := ok path rfl
    exact .inl ⟨held, he⟩
  · exact .inr ⟨fault, (fun hr => nomatch ready hr), he⟩

theorem lookup_cons_claim (hne : x.claim ≠ y.claim) (label : Label)
    (claims : List (List Component × Label)) :
    ((y.claim, label) :: claims).lookup x.claim = claims.lookup x.claim := by
  rw [List.lookup_cons, beq_false_of_ne hne]

theorem lookup_cons_ne_none {claims : List (List Component × Label)} (label : Label)
    (h : x.claim = y.claim ∨ claims.lookup x.claim ≠ none) :
    ((y.claim, label) :: claims).lookup x.claim ≠ none := by
  rw [List.lookup_cons]
  split
  · simp
  · rename_i hne
    exact h.resolve_left (ne_of_beq_false hne)

end Emission

end

/-! ## The first run -/

/-- Each of some pages has a file of its own, of which something is true. -/
def AllEmitted (s : Settings) (P : Emitted → Prop) (pages : List SourcedPage) : Prop :=
  ∃ xs : List Emitted, xs.map Emitted.page = pages ∧ (∀ x ∈ xs, x.IsGenerated s ∧ P x) ∧
    (xs.map Emitted.claim).Nodup

/-- What is left of a page of a run that was written: it was the first for its place, the file and
its manifest are held, and if the run would have ended early, so are those of all pages in front. -/
structure Emitted.Written (s : Settings) (time : String) (pages : List SourcedPage) (t : FileTree)
    (x : Emitted) : Prop where
  generated : x.IsGenerated s
  held : x.HeldBy s time t
  reached : ∃ front rest, pages = front ++ x.page :: rest ∧ x.IsNew s front ∧
    (s.failFast = true → AllEmitted s (Emitted.HeldBy s time t) front)

section

variable {s : Settings} {time : String} {t t' : FileTree} {x y : Emitted}
  {pages pages' front rest : List SourcedPage} {P Q : Emitted → Prop}

theorem AllEmitted.imp (h : AllEmitted s P pages)
    (hPQ : ∀ x : Emitted, x.page ∈ pages → x.IsGenerated s → P x → Q x) :
    AllEmitted s Q pages := by
  obtain ⟨xs, rfl, hP, distinct⟩ := h
  refine ⟨xs, rfl, fun x hx => ⟨(hP x hx).1, ?_⟩, distinct⟩
  exact hPQ x (List.mem_map_of_mem hx) (hP x hx).1 (hP x hx).2

theorem AllEmitted.right (h : AllEmitted s P (front ++ rest)) : AllEmitted s P rest := by
  obtain ⟨xs, he, hP, distinct⟩ := h
  obtain ⟨ys, zs, rfl, -, rfl⟩ := List.map_eq_append_iff.1 he
  rw [List.map_append] at distinct
  exact ⟨zs, rfl, fun x hx => hP x (List.mem_append_right _ hx), distinct.of_append_right⟩

theorem AllEmitted.concat (h : AllEmitted s P pages) (new : x.IsNew s pages)
    (hx : x.IsGenerated s) (hP : P x) : AllEmitted s P (pages ++ [x.page]) := by
  obtain ⟨xs, rfl, hxs, distinct⟩ := h
  refine ⟨xs ++ [x], by simp, ?_, ?_⟩
  · rw [List.forall_mem_append, List.forall_mem_singleton]
    exact ⟨hxs, hx, hP⟩
  · rw [List.map_append, List.map_singleton, ← List.concat_eq_append]
    refine distinct.concat fun hm => ?_
    obtain ⟨y, hy, he⟩ := List.mem_map.1 hm
    exact new y (List.mem_map_of_mem hy) (hxs y hy).1 he

theorem Emitted.Written.imp (h : x.Written s time pages t) (hp : ∃ rest', pages' = pages ++ rest')
    (held : ∀ z : Emitted, z.page ∈ pages → z.IsGenerated s → z.HeldBy s time t →
      z.HeldBy s time t') : x.Written s time pages' t' := by
  obtain ⟨rest', rfl⟩ := hp
  obtain ⟨front, rest, rfl, new, early⟩ := h.reached
  refine ⟨h.generated, held x (by simp) h.generated h.held, front, rest ++ rest', by simp, new,
    fun hf => (early hf).imp fun z hm => held z (by simp [hm])⟩

/-- How far a run has come that has taken some pages: all that have files have been claimed for, and
those that were told as written are held. -/
structure Emission.Follows (s : Settings) (time : String) (pages : List SourcedPage)
    (e : Emission) : Prop where
  claims : ∀ x : Emitted, x.page ∈ pages → x.IsGenerated s → e.claims.lookup x.claim ≠ none
  told : ∀ label path, .written label path ∈ e.account.events → ∃ x : Emitted,
    x.page.label = label ∧ x.path s = path ∧ x.Written s time pages e.tree

variable {e : Emission}

theorem Emission.Follows.isNew (h : Follows s time pages e)
    (free : e.claims.lookup x.claim = none) : x.IsNew s pages :=
  fun y hy hg he => h.claims y hy hg (he ▸ free)

/-- A page that is refused has no file or one whose place was claimed before. -/
theorem Emission.Follows.refuse (h : Follows s time pages e) {p : SourcedPage}
    (claimed : ∀ x : Emitted, x.page = p → x.IsGenerated s → e.claims.lookup x.claim ≠ none)
    (problem : PageProblem) : Follows s time (pages ++ [p])
      { e with account := e.account.fail (.refused p.label problem) } where
  claims x hm hx := by
    rcases List.mem_append.1 hm with hm | hm
    · exact h.claims x hm hx
    · exact claimed x (List.mem_singleton.1 hm) hx
  told label path hm := by
    rcases List.mem_append.1 hm with hm | hm
    · obtain ⟨x, hl, hp, hx⟩ := h.told label path hm
      exact ⟨x, hl, hp, hx.imp ⟨_, rfl⟩ fun _ _ _ => id⟩
    · cases List.mem_singleton.1 hm

theorem Emission.Follows.claim (h : Follows s time pages e) (hx : x.IsGenerated s)
    (free : e.claims.lookup x.claim = none) {tree : FileTree}
    (rewritten : e.tree.Rewritten (x.path s) tree) {written : List Path} {account : Account}
    (told : ∀ label path, .written label path ∈ account.events →
      .written label path ∈ e.account.events ∨ x.page.label = label ∧ x.path s = path ∧
        x.Written s time (pages ++ [x.page]) tree) :
    Follows s time (pages ++ [x.page])
      ⟨tree, (x.claim, x.page.label) :: e.claims, written, account⟩ where
  claims z hm hz := by
    refine lookup_cons_ne_none _ ?_
    rcases List.mem_append.1 hm with hm | hm
    · exact .inr (h.claims z hm hz)
    · exact .inl (congrArg Emitted.claim (hz.eq_of_page hx (List.mem_singleton.1 hm)))
  told label path hm := by
    rcases told label path hm with hm | now
    · obtain ⟨z, hl, hp, hz⟩ := h.told label path hm
      exact ⟨z, hl, hp, hz.imp ⟨_, rfl⟩ fun y hy hg hh =>
        hh.rewritten hg hx (h.isNew free y hy hg) rewritten⟩
    · exact ⟨x, now⟩

/-- Taking one more page keeps what was written, and says whether it was written, too. -/
theorem Emission.Follows.add (on : s.manifests = true) (h : Follows s time pages e)
    (early : s.failFast = true → AllEmitted s (Emitted.HeldBy s time e.tree) pages)
    (p : SourcedPage) : ∃ next passed,
      e.add s time (p, generate s.options p.page) = (next, passed) ∧
      Follows s time (pages ++ [p]) next ∧ (passed = true → s.failFast = true →
        AllEmitted s (Emitted.HeldBy s time next.tree) (pages ++ [p])) := by
  rcases add_spec on time e p with
    ⟨problem, he, claimed⟩ | ⟨x, rfl, hx, free, tree, rewritten, step⟩
  · exact ⟨_, _, he, h.refuse claimed problem, nofun⟩
  have new := h.isNew free
  have front : s.failFast = true → AllEmitted s (Emitted.HeldBy s time tree) pages :=
    fun hf => (early hf).imp fun z hm hz hh => hh.rewritten hz hx (new z hm hz) rewritten
  rcases step with ⟨hh, he⟩ | ⟨fault, -, he⟩
  · refine ⟨_, _, he, h.claim hx free rewritten fun label path hm => ?_,
      fun _ hf => (front hf).concat new hx hh⟩
    rcases List.mem_append.1 hm with hm | hm
    · rcases List.mem_append.1 hm with hm | hm
      · exact .inl hm
      · cases List.mem_singleton.1 hm
    · cases List.mem_singleton.1 hm
      exact .inr ⟨rfl, rfl, hx, hh, pages, [], rfl, new, front⟩
  · refine ⟨_, _, he, h.claim hx free rewritten fun label path hm => ?_, nofun⟩
    rcases List.mem_append.1 hm with hm | hm
    · exact .inl hm
    · cases List.mem_singleton.1 hm

def Emission.take (s : Settings) (time : String) (e : Emission) (pages : List SourcedPage) :
    Emission :=
  takeEach s.failFast (add s time) e (pages.map fun p => (p, generate s.options p.page))

theorem Emission.take_cons {p : SourcedPage} {next : Emission} {passed : Bool}
    (h : e.add s time (p, generate s.options p.page) = (next, passed)) :
    e.take s time (p :: rest) =
      if s.failFast && !passed then next else next.take s time rest := by
  rw [take, List.map_cons, takeEach, h]
  rfl

theorem Emission.Follows.take (on : s.manifests = true) : ∀ {rest pages : List SourcedPage}
    {e : Emission}, Follows s time pages e →
    (s.failFast = true → AllEmitted s (Emitted.HeldBy s time e.tree) pages) →
    ∀ label path, .written label path ∈ (e.take s time rest).account.events → ∃ x : Emitted,
      x.page.label = label ∧ x.path s = path ∧
        x.Written s time (pages ++ rest) (e.take s time rest).tree
  | [], pages, e, h, _, label, path, hm => by
    rw [List.append_nil]
    exact h.told label path hm
  | p :: rest, pages, e, h, early, label, path, hm => by
    -- The run goes on only if this page was written or nothing ends it early.
    obtain ⟨next, passed, he, follows, early'⟩ := h.add on early p
    rw [take_cons he] at hm ⊢
    split_ifs at hm ⊢ with ends
    · obtain ⟨x, hl, hp, hx⟩ := follows.told label path hm
      exact ⟨x, hl, hp, hx.imp ⟨rest, by simp⟩ fun _ _ _ => id⟩
    · have := follows.take on (fun hf => early' (by simpa [hf] using ends) hf) label path hm
      rwa [List.append_assoc] at this

end

theorem written_notMem_load (t : FileTree) (failFast : Bool) (files : List Path) (label : Label)
    (path : Path) : .written label path ∉ (Inputs.load t failFast files).account.events := by
  intro hm
  have := List.mem_filterMap.2 ⟨_, hm, show Event.written? (.written label path) = some _ from rfl⟩
  rw [filterMap_written?_load] at this
  cases this

/-- A run takes its pages, unless it is to end early and could not load a file. -/
theorem emitPages_eq_take {s : Settings} {files : List Path} {t : FileTree}
    (reached : s.failFast = true → (Inputs.load t s.failFast files).unreadable = 0) (m : Machine) :
    emitPages m s files t =
      let e := Emission.take s m.time
        { tree := t, account := (Inputs.load t s.failFast files).account }
        (Inputs.load t s.failFast files).pages
      { tree := e.tree
        events := (e.account.close "page(s)" e.account.total).events
        result :=
          if e.account.failed > 0 then .error (.generation e.account.failed e.account.total)
          else .ok e.written } := by
  unfold emitPages
  simp only [zip_generateAll]
  rw [if_neg (by simpa using reached)]
  rfl

/-- Every file that a run tells as written is held in the end, and was the first for its place. -/
theorem written_emitPages {m : Machine} {s : Settings} {files : List Path} {t : FileTree}
    (on : s.manifests = true) {label : Label} {path : Path}
    (hw : .written label path ∈ (emitPages m s files t).events) : ∃ x : Emitted,
      x.page.label = label ∧ x.path s = path ∧
        x.Written s m.time (Inputs.load t s.failFast files).pages (emitPages m s files t).tree := by
  have unwritten := written_notMem_load t s.failFast files
  unfold emitPages at hw ⊢
  simp only [zip_generateAll] at hw ⊢
  split at hw
  · exact absurd hw (unwritten label path)
  rename_i going
  rw [if_neg going]
  rcases List.mem_append.1 hw with hw | hw
  · have start : Emission.Follows s m.time []
        { tree := t, account := (Inputs.load t s.failFast files).account } :=
      ⟨nofun, fun label path hm => absurd hm (unwritten label path)⟩
    exact start.take on (fun _ => ⟨[], rfl, nofun, List.nodup_nil⟩) label path hw
  · cases List.mem_singleton.1 hw

/-- A run leaves a file as it is that is in none of the places where it writes. -/
theorem FileTree.Holds.emitPages {m : Machine} {s : Settings} {files : List Path} {t : FileTree}
    {p : Path} {text : String} (h : t.Holds p text)
    (apart : ∀ x : Emitted, x.page ∈ (Inputs.load t s.failFast files).pages → x.IsGenerated s →
      p.place t.home ≠ (x.path s).place t.home ∧
        p.place t.home ≠ (x.path s).manifest.place t.home) :
    (emitPages m s files t).tree.Holds p text := by
  unfold PageAccessors.emitPages
  simp only [zip_generateAll]
  split
  · exact h
  refine (takeEach_induction (P := fun e : Emission =>
    e.tree.home = t.home ∧ e.tree.Holds p text) ?_ ⟨rfl, h⟩).2
  rintro e a ha ⟨home, holds⟩
  obtain ⟨page, hm, rfl⟩ := List.mem_map.1 ha
  rcases e.tree_add s m.time page (generate s.options page.page) with he | ⟨file, hg, he⟩
  · rw [he]
    exact ⟨home, holds⟩
  obtain ⟨r, tree, hw, rewritten, -⟩ := writeGenerated_spec hg m.time s.output
    (if s.manifests then some (regenerateCommand page.source s.output) else none) e.tree
  obtain ⟨hp, hb⟩ := apart ⟨page, file⟩ hm hg
  rw [← home] at hp hb
  rw [he, hw]
  exact ⟨rewritten.onward.home.trans home, holds.rewritten rewritten hp hb⟩

end PageAccessors
