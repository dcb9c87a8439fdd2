import PageAccessors.Proofs.Calls
import PageAccessors.Proofs.FailedWrites

/-!
# Files while they are written

Whatever becomes of its calls, the writing of a file never shows a part of it: at every point the
files are as before, but for the one that the path leads to, which may have all of its new bytes
already (`FileTree.Unbroken`). In the end the path leads to the bytes, and there is nothing else but
new directories on its way (`FileTree.Replaced`), or there are such directories only
(`FileTree.Built`).

Up to the last call the tree is the one from before with new directories, and from some point on
with a temporary file (`FileTree.Drafted`), whose name is none of the path, so that the path does
not lead to it.
-/

namespace PageAccessors

open FileTree

/-! ## The way of a path -/

namespace Path

/-- The first pieces of a path lead to a place. -/
def Passes (p : Path) (home x : Location) : Prop :=
  ∃ front rest, p.pieces = front ++ rest ∧ x = front.foldl Location.along (p.origin home)

variable {p q : Path} {home x : Location}

theorem passes_place (p : Path) (home : Location) : p.Passes home (p.place home) :=
  ⟨p.pieces, [], by simp, rfl⟩

theorem passes_origin (p : Path) (home : Location) : p.Passes home (p.origin home) :=
  ⟨[], p.pieces, rfl, rfl⟩

/-- The pieces of a parent are in front of others. -/
theorem exists_of_parent? (h : p.parent? = some q) : ∃ kept piece rest,
    p.pieces = kept ++ piece :: rest ∧ q = directoryOf kept ∧ (kept = [] → piece ≠ "") := by
  obtain ⟨dropped, hp, -⟩ := exists_dropNothing_append p.pieces
  obtain ⟨dropped', ho, -⟩ := exists_dropNothing_append (dropNothing p.pieces).dropLast
  unfold parent? at h
  split at h
  · cases h
  · cases h
  · rename_i hnil hroot
    obtain ⟨front, last, hf⟩ := (List.eq_nil_or_concat (dropNothing p.pieces)).resolve_left hnil
    rw [List.concat_eq_append] at hf
    rw [hf, List.dropLast_concat] at ho h
    have pieces : p.pieces = dropNothing front ++ (dropped' ++ last :: dropped) := by
      rw [← List.append_assoc, ← ho]
      conv_lhs => rw [hp, hf, List.append_assoc, List.singleton_append]
    have directory : some q = some (directoryOf (dropNothing front)) := by
      rw [← h]
      rcases dropNothing front with _ | ⟨first, _ | ⟨second, rest⟩⟩
      · rfl
      · by_cases hf : first = ""
        · rw [hf]
          rfl
        · simp [directoryOf, hf]
      · simp [directoryOf]
    obtain rfl := Option.some.inj directory
    cases dropped' with
    | nil =>
      refine ⟨_, last, dropped, pieces, rfl, fun hk he => ?_⟩
      rw [hk] at ho
      rw [ho, he] at hf
      exact hroot hf
    | cons piece rest =>
      refine ⟨_, piece, rest ++ last :: dropped, pieces, rfl, fun hk => ?_⟩
      cases front with
      | nil => simp [dropNothing] at ho
      | cons first front => simp [dropNothing] at hk

theorem origin_directoryOf {kept : List String} {piece : String} {rest : List String}
    (hp : p.pieces = kept ++ piece :: rest) (hne : kept = [] → piece ≠ "") (home : Location) :
    (directoryOf kept).origin home = p.origin home := by
  obtain ⟨pieces⟩ := p
  obtain rfl : pieces = kept ++ piece :: rest := hp
  suffices (directoryOf kept).isAbsolute = (Path.mk (kept ++ piece :: rest)).isAbsolute by
    rw [origin, origin, this]
  rcases kept with _ | ⟨first, _ | ⟨second, kept⟩⟩
  · rw [List.nil_append, isAbsolute_cons_of_ne (hne rfl)]
    rfl
  · rw [List.singleton_append, isAbsolute_cons_cons]
    by_cases hf : first = ""
    · rw [hf]
      rfl
    · simp [directoryOf, hf, isAbsolute_cons_of_ne]
  · rw [directoryOf, List.cons_append, List.cons_append, isAbsolute_cons_cons,
      isAbsolute_cons_cons]
    · simp
    · simp

/-- The way of a parent is a part of the way. -/
theorem Passes.of_parent? (h : p.parent? = some q) (hx : q.Passes home x) : p.Passes home x := by
  obtain ⟨kept, piece, rest, hp, rfl, hne⟩ := exists_of_parent? h
  obtain ⟨front, behind, hq, rfl⟩ := hx
  have origin_ := origin_directoryOf hp hne home
  rw [origin_]
  -- The empty path and the root have pieces of their own, which lead nowhere.
  have stays (h : ∀ piece ∈ front ++ behind, piece = "") :
      p.Passes home (front.foldl Location.along (p.origin home)) := by
    rw [foldl_along_of_nothing _ fun piece hm =>
      ofPiece?_eq_none_iff.2 (.inl (h piece (List.mem_append_left behind hm)))]
    exact passes_origin p home
  unfold directoryOf at hq
  split at hq
  · exact stays (by simp [← hq, empty])
  · exact stays (by simp [← hq, root])
  · exact ⟨front, behind ++ piece :: rest, by rw [hp, ← List.append_assoc, ← hq], rfl⟩

end Path

namespace FileTree

variable {t t' : FileTree} {p : Path}

/-- What a path names in a directory is its place. -/
theorem place_of_target? {target : t.Target} (h : t.target? p = .ok (some target)) :
    p.place t.home = target.name :: target.parent := by
  unfold target? at h
  rw [Except.bind_eq_ok_iff] at h
  obtain ⟨first, start, h⟩ := h
  obtain ⟨-, -, rfl⟩ := start_eq_ok_iff.1 start
  simp only at h
  obtain ⟨slashes, pieces, nothing⟩ := exists_dropWhile_append p.pieces
  rw [Path.place, pieces, List.foldl_append, foldl_along_of_nothing _ nothing]
  cases hd : p.pieces.reverse.dropWhile (·.isEmpty) with
  | nil =>
    rw [hd] at h
    cases h
  | cons last front =>
    rw [hd] at h
    simp only at h
    rw [Except.bind_eq_ok_iff] at h
    obtain ⟨parent, hw, h⟩ := h
    split at h
    · cases h
    split_ifs at h with dots
    · cases h
    obtain rfl := Option.some.inj (Except.ok.inj h)
    have text := List.head?_dropWhile_not (·.isEmpty) p.pieces.reverse
    rw [hd, List.head?_cons] at text
    rw [not_or] at dots
    rw [List.reverse_cons, List.foldl_append, ← eq_of_walk hw, List.foldl_cons, List.foldl_nil,
      Location.along, if_neg, if_neg dots.2]
    exact not_or.2 ⟨by simpa using text, dots.1⟩

theorem target?_here (target : t.Target) : t.target? .here ≠ .ok (some target) := by
  intro h
  unfold target? at h
  rw [Except.bind_eq_ok_iff] at h
  obtain ⟨first, -, h⟩ := h
  have pieces : Path.here.pieces.reverse.dropWhile (·.isEmpty) = ["."] := by decide
  simp only at h
  rw [pieces] at h
  simp only at h
  rw [Except.bind_eq_ok_iff] at h
  obtain ⟨parent, -, h⟩ := h
  split at h
  · cases h
  · cases h

/-- A directory is made at the place of its path, where there was nothing. -/
theorem makeDirectory_setAt (h : t.makeDirectory p = .ok t') : t.node? (p.place t.home) = none ∧
    t.SetAt (p.place t.home) (some .directory) t' := by
  unfold makeDirectory at h
  rw [Except.bind_eq_ok_iff] at h
  obtain ⟨target, ht, h⟩ := h
  cases target with
  | none => cases h
  | some target =>
    rw [place_of_target? ht]
    simp only at h
    split at h
    · rename_i free
      obtain rfl := Except.ok.inj h
      exact ⟨free, rfl, fun x => node?_addDirectory x⟩
    · cases h

/-! ## Trees before, while and after -/

variable {t₀ t₁ t₂ : FileTree} {s : Location} {bytes : ByteArray}

/-- A tree with new directories on the way of a path, and no other difference. -/
structure Built (t : FileTree) (p : Path) (t' : FileTree) : Prop where
  home : t'.home = t.home
  node : ∀ x, t'.node? x = t.node? x ∨
    t.node? x = none ∧ t'.node? x = some .directory ∧ p.Passes t.home x

/-- A tree with new directories on the way of a path, and with a file that the path does not
name. -/
def Drafted (t : FileTree) (p : Path) (s : Location) (bytes : ByteArray) (t' : FileTree) : Prop :=
  ∃ t₀, t.Built p t₀ ∧ t₀.node? s = none ∧ (∀ name, s.head? = some name → name ∉ p.pieces) ∧
    t₀.SetAt s (some (.file bytes)) t'

/-- A tree in which a path leads to some bytes, with new directories on its way, and no other
difference. -/
structure Replaced (t : FileTree) (p : Path) (bytes : ByteArray) (t' : FileTree) : Prop where
  home : t'.home = t.home
  file : t'.find? p = some (.file bytes)
  node : ∀ x, t'.locate p = .ok x ∨ t'.node? x = t.node? x ∨
    t.node? x = none ∧ t'.node? x = some .directory ∧ p.Passes t.home x

/-- A tree in which no file is cut: each file is as before, but for the one that the path leads to,
which has all the new bytes if it is not; and a file that the path leads to was there as it is, if
it has not all the new bytes. -/
structure Unbroken (t : FileTree) (p : Path) (bytes : ByteArray) (t' : FileTree) : Prop where
  files : ∀ x old, t.node? x = some (.file old) → t'.node? x = some (.file old) ∨
    t'.locate p = .ok x ∧ t'.node? x = some (.file bytes)
  path : ∀ x new, t'.locate p = .ok x → t'.node? x = some (.file new) →
    new = bytes ∨ t.node? x = some (.file new)
  leads : ∀ x, t.locate p = .ok x → t'.locate p = .ok x

namespace Built

theorem refl (t : FileTree) (p : Path) : t.Built p t := ⟨rfl, fun _ => .inl rfl⟩

theorem grown (h : t.Built p t') : t.Grown t' :=
  ⟨h.home, fun x => (h.node x).imp id fun ⟨none_, directory, _⟩ => ⟨none_, directory⟩⟩

theorem add {q : Location} (h : t.Built p t₁) (hq : p.Passes t.home q) (free : t₁.node? q = none)
    (hs : t₁.SetAt q (some .directory) t₂) : t.Built p t₂ := by
  refine ⟨hs.home.trans h.home, fun x => ?_⟩
  by_cases hx : x = q
  · subst hx
    have before := h.grown.node x
    rw [free] at before
    exact .inr ⟨before.eq_none, hs.node_self, hq⟩
  · rw [hs.node_of_ne hx]
    exact h.node x

theorem locate (h : t.Built p t') {x : Location} (hl : t.locate p = .ok x) :
    t'.locate p = .ok x :=
  locate_mono h.home (fun y hy => (hy ▸ h.grown.node y : Kept (some _) _).eq_some) hl

theorem unbroken (h : t.Built p t') (bytes : ByteArray) : t.Unbroken p bytes t' where
  files x _ hx := .inl (hx ▸ h.grown.node x : Kept (some _) _).eq_some
  path x _ _ hx := .inr (hx ▸ h.grown.node x : Kept _ (some _)).eq_file
  leads _ := h.locate

end Built

namespace Drafted

variable (h : t.Drafted p s bytes t')
include h

theorem node_self : t'.node? s = some (.file bytes) := by
  obtain ⟨t₀, -, -, -, hs⟩ := h
  exact hs.node_self

/-- The file is gone again. -/
theorem built (hr : t'.SetAt s none t₂) : t.Built p t₂ := by
  obtain ⟨t₀, hb, free, -, hs⟩ := h
  refine ⟨hr.home.trans (hs.home.trans hb.home), fun x => ?_⟩
  have same : t₂.node? x = t₀.node? x := by
    by_cases hx : x = s
    · rw [hx, hr.node_self, free]
    · rw [hr.node_of_ne hx, hs.node_of_ne hx]
  rw [same]
  exact hb.node x

theorem overwrite {more : ByteArray} (hw : t'.SetAt s (some (.file more)) t₂) :
    t.Drafted p s more t₂ := by
  obtain ⟨t₀, hb, free, other, hs⟩ := h
  exact ⟨t₀, hb, free, other, Disk.setAt_setAt hs hw⟩

variable (spelled : p.IsSpelled)
include spelled

/-- A path does not lead to a file with another name. -/
theorem ne_of_locate {x : Location} {new : ByteArray} (hl : t'.locate p = .ok x)
    (hx : t'.node? x = some (.file new)) : x ≠ s := by
  rintro rfl
  obtain ⟨t₀, -, -, other, -⟩ := h
  rw [← spelled] at hl
  obtain ⟨front, name, ends, hq⟩ := exists_ends_of_locate hl hx
  rw [spelled] at ends
  exact other name (by rw [hq, List.head?_cons]) (by simp [ends.pieces])

theorem unbroken (all : ByteArray) : t.Unbroken p all t' := by
  have apart : ∀ x new, t'.locate p = .ok x → t'.node? x = some (.file new) → x ≠ s :=
    fun _ _ => h.ne_of_locate spelled
  obtain ⟨t₀, hb, free, -, hs⟩ := h
  refine ⟨fun x old hx => .inl ?_, fun x new hl hx => .inr ?_, fun x hl => ?_⟩
  · have kept : t₀.node? x = some (.file old) := (hx ▸ hb.grown.node x : Kept (some _) _).eq_some
    rw [hs.node_of_ne, kept]
    rintro rfl
    rw [free] at kept
    cases kept
  · rw [hs.node_of_ne (apart x new hl hx)] at hx
    exact (hx ▸ hb.grown.node x : Kept _ (some _)).eq_file
  · exact Disk.locate_of_setAt (hb.locate hl) hs (by simp [free])

/-- The file is moved to the place of the path. -/
theorem rename (hr : t'.rename s p = .ok t₂) : t.Unbroken p bytes t₂ ∧ t.Replaced p bytes t₂ := by
  obtain ⟨front, name, ends⟩ := spelled.exists_ends_of_rename hr
  obtain ⟨hl, hd, rest, h₁, h₂⟩ := rename_spec ends h.node_self hr
  obtain ⟨t₀, hb, free, -, hs⟩ := h
  have moved := Disk.setAt_of_move free hs h₁ h₂
  have home : t₂.home = t.home := moved.home.trans hb.home
  have leads : t₂.locate p = .ok (p.place t'.home) := by
    refine Disk.locate_of_setAt (Disk.locate_of_setAt hl h₁ (by simp [hs.node_self])) h₂ ?_
    rw [h₁.node]
    split_ifs
    · simp
    · exact hd
  have file := moved.node_self
  generalize p.place t'.home = q at moved leads file
  refine ⟨⟨fun x old hx => ?_, fun x new hl hx => .inl ?_, fun x hl => ?_⟩, home, ?_, fun x => ?_⟩
  · by_cases hq : x = q
    · rw [hq]
      exact .inr ⟨leads, file⟩
    · rw [moved.node_of_ne hq]
      exact .inl (hx ▸ hb.grown.node x : Kept (some _) _).eq_some
  · obtain rfl := Except.ok.inj (leads.symm.trans hl)
    rw [file] at hx
    exact (Node.file.inj (Option.some.inj hx)).symm
  · have same := eq_place_of_locate leads
    rw [leads, same, home, ← eq_place_of_locate hl]
  · rw [find?_of_locate leads, file]
  · by_cases hq : x = q
    · rw [hq]
      exact .inl leads
    · rw [moved.node_of_ne hq]
      exact .inr (hb.node x)

end Drafted

/-- What a path that can be followed passes is a directory, up to where it leads. -/
theorem node?_of_passes {q x : Location} (hl : t.locate p = .ok q) (hx : p.Passes t.home x) :
    t.node? x = some .directory ∨ x = q := by
  obtain ⟨front, rest, hp, rfl⟩ := hx
  obtain ⟨-, hw⟩ := locate_eq_ok_iff.1 hl
  rw [hp, walk_append] at hw
  obtain ⟨between, hf, hr⟩ := hw
  rw [← eq_of_walk hf]
  cases rest with
  | nil => exact .inr (Except.ok.inj hr)
  | cons piece rest => exact .inl (walk_cons.1 hr).1

/-- When a file is replaced again, nothing else changes. -/
theorem Replaced.again {more : ByteArray} (h : t.Replaced p bytes t₁)
    (h' : t₁.Replaced p more t₂) : t.Replaced p more t₂ ∧
      ∃ q, t₁.locate p = .ok q ∧ t₁.SetAt q (some (.file more)) t₂ := by
  obtain ⟨q, hl, file⟩ := exists_locate_of_find? h.file
  obtain ⟨q', hl', file'⟩ := exists_locate_of_find? h'.file
  obtain rfl : q' = q := by rw [eq_place_of_locate hl, eq_place_of_locate hl', h'.home]
  have set : t₁.SetAt q' (some (.file more)) t₂ := by
    refine ⟨h'.home, fun x => ?_⟩
    split_ifs with hx
    · rw [hx, file']
    rcases h'.node x with leads | same | ⟨none_, -, passes⟩
    · exact absurd (Except.ok.inj (leads.symm.trans hl')) hx
    · exact same
    · rcases node?_of_passes hl passes with directory | rfl
      · rw [none_] at directory
        cases directory
      · exact absurd rfl hx
  refine ⟨⟨h'.home.trans h.home, h'.file, fun x => ?_⟩, q', hl, set⟩
  by_cases hx : x = q'
  · exact .inl (hx ▸ hl')
  · rw [set.node_of_ne hx]
    refine .inr ((h.node x).resolve_left fun leads => ?_)
    exact hx (Except.ok.inj (leads.symm.trans hl))

end FileTree

/-! ## Directories -/

/-- The way to a path is on that of another one, or it is nothing that can be made. -/
def Path.Joins (q p : Path) : Prop :=
  q = .here ∨ q = .empty ∨ ∀ home x, q.Passes home x → p.Passes home x

namespace Path.Joins

variable {p q r : Path}

theorem parent? (h : q.Joins p) (hr : q.parent? = some r) : r.Joins p := by
  rcases h with rfl | rfl | h
  · exact .inr (.inl (Option.some.inj hr).symm)
  · cases hr
  · exact .inr (.inr fun home x hx => h home x (hx.of_parent? hr))

theorem stageDirectory (p : Path) : p.stageDirectory.Joins p := by
  unfold Path.stageDirectory
  split
  · rename_i parent hr
    split_ifs
    · exact .inl rfl
    · exact .inr (.inr fun home x hx => hx.of_parent? hr)
  · exact .inl rfl

theorem passes {t t' : FileTree} (h : q.Joins p) (hm : t.makeDirectory q = .ok t') :
    p.Passes t.home (q.place t.home) := by
  rcases h with rfl | rfl | h
  · unfold FileTree.makeDirectory at hm
    rw [Except.bind_eq_ok_iff] at hm
    obtain ⟨target, ht, hm⟩ := hm
    cases target with
    | none => cases hm
    | some target => exact absurd ht (target?_here target)
  · cases hm
  · exact h t.home _ (q.passes_place t.home)

end Path.Joins

namespace Calls

variable {α β : Type} {t t₁ t₂ : FileTree} {p q : Path} {bytes : ByteArray} {s : Location}

/-- A program makes directories on the way of a path, and does nothing else. -/
def Builds (t : FileTree) (p : Path) (bytes : ByteArray) (a : Calls α) (t₁ : FileTree) : Prop :=
  a.Always (t.Unbroken p bytes) (fun _ => t.Built p) (t.Built p) t₁

namespace Builds

theorem done (h : t.Built p t₁) : ∀ result : Except FileFault α, Builds t p bytes (done result) t₁
  | .ok _ => ⟨h.unbroken bytes, h⟩
  | .error _ => ⟨h.unbroken bytes, h⟩

theorem unlessDirectory (h : t.Built p t₁) (q : Path) (e : FileFault) :
    Builds t p bytes (unlessDirectory q e) t₁ := by
  refine Always.bind (P := fun _ => t.Built p)
    (Always.only (h.unbroken bytes) fun answer t₂ gives => ?_) fun there t₂ hb => ?_
  · match answer, gives with
    | .ok true, gives => exact gives.2 ▸ done h _
    | .ok false, same => exact same ▸ done h _
    | .error e, same => exact same ▸ done h _
  · cases there with
    | true => exact done hb _
    | false => exact done hb _

theorem makeDirectory (h : t.Built p t₁) (hq : q.Joins p) :
    Builds t p bytes (only (.makeDirectory q)) t₁ := by
  refine Always.only (h.unbroken bytes) fun answer t₂ gives => ?_
  cases answer with
  | error e =>
    obtain rfl : t₂ = t₁ := gives
    exact done h _
  | ok _ =>
    obtain ⟨free, set⟩ := makeDirectory_setAt gives
    exact done (h.add (h.home ▸ hq.passes gives) free set) _

theorem ensureDirectory (h : t.Built p t₁) (hq : q.Joins p) :
    Builds t p bytes (ensureDirectory q) t₁ :=
  (makeDirectory h hq).tryCatch fun e _ hb => unlessDirectory hb q e

theorem makeDirectories (h : t.Built p t₁) (hq : q.Joins p) :
    Builds t p bytes (makeDirectories q) t₁ := by
  induction q using makeDirectories.induct generalizing t₁ with
  | case1 q empty =>
    rw [Calls.makeDirectories, if_pos empty]
    exact done h _
  | case2 q empty ih =>
    rw [Calls.makeDirectories, if_neg empty]
    refine (makeDirectory h hq).tryCatch fun e t₂ hb => ?_
    split_ifs
    · split
      · exact done hb _
      · rename_i outer ho
        exact (ih outer ho hb (hq.parent? ho)).bind fun _ _ hb => ensureDirectory hb hq
    · exact unlessDirectory hb q e

end Builds

/-! ## Files -/

section

variable (spelled : p.IsSpelled)
include spelled

/-- An action that fails with a temporary file leaves none. -/
theorem always_orDiscard {a : Calls α} {Q : α → FileTree → Prop}
    (h : a.Always (t.Unbroken p bytes) Q (fun t₂ => ∃ part, t.Drafted p s part t₂) t₁) :
    (orDiscard a s).Always (t.Unbroken p bytes) Q (t.Built p) t₁ := by
  refine h.tryCatch fun e t₂ ⟨part, draft⟩ => Always.bind (P := fun _ => t.Built p) ?_
    fun _ t₃ built => ⟨built.unbroken bytes, built⟩
  refine Always.only (draft.unbroken spelled bytes) fun answer t₃ gives => ?_
  change if t₂.node? s = some .directory then _ else _ at gives
  rw [if_neg (by simp [draft.node_self])] at gives
  exact Builds.done (draft.built gives) answer

/-- The bytes are behind those that were there, or a part of them is. -/
theorem always_writeAll {old rest : ByteArray} (h : t.Drafted p s old t₁) :
    (writeAll s rest).Always (t.Unbroken p bytes) (fun _ => t.Drafted p s (old ++ rest))
      (fun t₂ => ∃ part, t.Drafted p s part t₂) t₁ := by
  induction rest using writeAll.induct generalizing old t₁ with
  | case1 rest none_ =>
    rw [writeAll, if_pos none_]
    refine ⟨h.unbroken spelled bytes, ?_⟩
    rwa [ByteArray.size_eq_zero_iff.1 none_, ByteArray.append_empty]
  | case2 rest some_ ih =>
    rw [writeAll, if_neg some_]
    refine Always.bind (P := fun n t₂ => n ≤ rest.size ∧
      t.Drafted p s (old ++ rest.extract 0 n) t₂) ?_ ?_
    · refine Always.only (h.unbroken spelled bytes) fun answer t₂ gives => ?_
      cases answer with
      | error e =>
        obtain rfl : t₂ = t₁ := gives
        exact ⟨h.unbroken spelled bytes, old, h⟩
      | ok n =>
        obtain ⟨old', file, le, set⟩ := gives
        obtain rfl : old = old' := by
          rw [h.node_self] at file
          exact Node.file.inj (Option.some.inj file)
        have draft := h.overwrite set
        exact ⟨draft.unbroken spelled bytes, le, draft⟩
    · rintro (_ | n) t₂ ⟨le, draft⟩
      · exact ⟨draft.unbroken spelled bytes, _, draft⟩
      · have whole : old ++ rest.extract 0 (n + 1) ++ rest.extract (n + 1) rest.size =
            old ++ rest := by
          rw [ByteArray.append_assoc, ← ByteArray.extract_eq_extract_append_extract _ (by omega) le,
            ByteArray.extract_zero_size]
        rw [← whole]
        exact ih n draft

/-- A temporary file has all the bytes, or there is none. -/
theorem always_stage : (stage p bytes).Always (t.Unbroken p bytes)
    (fun s => t.Drafted p s bytes) (t.Built p) t := by
  refine (Builds.makeDirectories (.refl t p) (.stageDirectory p)).bind fun _ t₁ built => ?_
  refine Always.bind (P := fun s => t.Drafted p s .empty) ?_ fun s t₂ draft => ?_
  · refine Always.only (built.unbroken bytes) fun answer t₂ gives => ?_
    cases answer with
    | error e =>
      obtain rfl : t₂ = t₁ := gives
      exact ⟨built.unbroken bytes, built⟩
    | ok _ =>
      obtain ⟨name, parent, rfl, -, free, other, set⟩ := gives
      have draft : t.Drafted p (name :: parent) .empty t₂ :=
        ⟨t₁, built, free, fun _ hn => Option.some.inj hn ▸ other, set⟩
      exact ⟨draft.unbroken spelled bytes, draft⟩
  · have written : (writeAll s bytes).Always (t.Unbroken p bytes) _ _ t₂ :=
      always_writeAll spelled draft
    rw [ByteArray.empty_append] at written
    have synced := written.bind (f := fun _ => only (.sync s)) (R := fun _ => t.Drafted p s bytes)
      fun _ t₃ draft => Always.only (draft.unbroken spelled bytes) fun answer t₄ same => by
        obtain rfl : t₄ = t₃ := same
        cases answer with
        | error e => exact ⟨draft.unbroken spelled bytes, bytes, draft⟩
        | ok _ => exact ⟨draft.unbroken spelled bytes, draft⟩
    exact (always_orDiscard spelled synced).bind fun _ t₃ draft =>
      ⟨draft.unbroken spelled bytes, draft⟩

/-- A temporary file is moved to the path, or it is gone. -/
theorem always_persist (h : t.Drafted p s bytes t₁) : (persist s p).Always (t.Unbroken p bytes)
    (fun _ => t.Replaced p bytes) (t.Built p) t₁ := by
  refine always_orDiscard spelled (Always.only (h.unbroken spelled bytes) fun answer t₂ gives => ?_)
  cases answer with
  | error e =>
    obtain rfl : t₂ = t₁ := gives
    exact ⟨h.unbroken spelled bytes, bytes, h⟩
  | ok _ => exact h.rename spelled gives

theorem always_writeAtomic : (writeAtomic p bytes).Always (t.Unbroken p bytes)
    (fun _ => t.Replaced p bytes) (t.Built p) t :=
  (always_stage spelled).bind fun _ _ draft => always_persist spelled draft

end

end Calls

/-! ## All courses -/

open Calls in
/-- A write never shows a part of a file and leaves none, whatever becomes of its calls and wherever
it ends; and of two that come to their ends, the second one leaves nothing but its own bytes. -/
theorem writeAtomic_never_partial (text : String) (bytes : ByteArray) (t : FileTree) :
    (∀ result t', (Disk.writeAtomic (.ofString text) bytes).apply t = (result, t') →
        Reaches (writeAtomic (.ofString text) bytes) t (.done result) t') ∧
      (∀ a t', Reaches (writeAtomic (.ofString text) bytes) t a t' →
        t.Unbroken (.ofString text) bytes t') ∧
      (∀ t', Reaches (writeAtomic (.ofString text) bytes) t (.done (.ok ())) t' →
        t.Replaced (.ofString text) bytes t') ∧
      (∀ e t', Reaches (writeAtomic (.ofString text) bytes) t (.done (.error e)) t' →
        t.Built (.ofString text) t') ∧
      ∀ more t₁ t₂, Reaches (writeAtomic (.ofString text) bytes) t (.done (.ok ())) t₁ →
        Reaches (writeAtomic (.ofString text) more) t₁ (.done (.ok ())) t₂ →
          t.Replaced (.ofString text) more t₂ ∧ ∃ q, t₁.locate (.ofString text) = .ok q ∧
            t₁.SetAt q (some (.file more)) t₂ := by
  have always (bytes : ByteArray) (t : FileTree) : (writeAtomic (.ofString text) bytes).Always
      (t.Unbroken _ bytes) (fun _ => t.Replaced _ bytes) (t.Built _) t :=
    always_writeAtomic (Path.IsSpelled.ofString text)
  refine ⟨fun result t' he => ?_, fun a t' hr => ((always bytes t).of_reaches hr).point,
    fun t' hr => ((always bytes t).of_reaches hr).2,
    fun e t' hr => ((always bytes t).of_reaches hr).2, fun more t₁ t₂ hr hr' => ?_⟩
  · have reaches := reaches_run (writeAtomic (.ofString text) bytes) t
    rwa [run_writeAtomic, he] at reaches
  · exact ((always bytes t).of_reaches hr).2.again ((always more t₁).of_reaches hr').2

/-- A file that is written again, up to its temporary file and up to the end. -/
theorem writeAtomic_never_partial_login : ∃ a t₁ t₂,
    Calls.Reaches (.writeAtomic (.ofString "out/Login.kt") "ab".toUTF8) .login a t₁ ∧
      t₁.node? [".tmp", "out"] = some (.file .empty) ∧
      FileTree.login.Unbroken (.ofString "out/Login.kt") "ab".toUTF8 t₁ ∧
      (Disk.writeAtomic (.ofString "out/Login.kt") "ab".toUTF8).apply .login = (.ok (), t₂) ∧
      FileTree.login.Replaced (.ofString "out/Login.kt") "ab".toUTF8 t₂ := by
  obtain ⟨runs, always, replaced, -, -⟩ :=
    writeAtomic_never_partial "out/Login.kt" "ab".toUTF8 .login
  have started : ∃ a, Calls.Reaches (.writeAtomic (.ofString "out/Login.kt") "ab".toUTF8) .login a
      (FileTree.login.putFile ".tmp" ["out"] .empty rfl (by decide)) := by
    let p := Path.ofString "out/Login.kt"
    have occupied : (Call.makeDirectory p.stageDirectory).Gives .login (.error .occupied) .login :=
      rfl
    have there : (Call.isDirectory p.stageDirectory).Gives .login (.ok true) .login := ⟨rfl, rfl⟩
    have created : (Call.create p.stageDirectory p).Gives .login (.ok [".tmp", "out"])
        (FileTree.login.putFile ".tmp" ["out"] .empty rfl (by decide)) :=
      ⟨".tmp", ["out"], rfl, rfl, rfl, by decide, rfl, fun x => node?_putFile x⟩
    rw [Calls.writeAtomic, Calls.stage, Calls.makeDirectories, if_neg (by decide)]
    exact ⟨_, .onward occupied (.onward there (.onward created (.here _ _)))⟩
  obtain ⟨a, started⟩ := started
  have ends : (Path.ofString "out/Login.kt").Ends ["out"] "Login.kt" :=
    ⟨rfl, by decide, by decide, by decide, by decide, by decide⟩
  obtain ⟨t₂, run, -⟩ :=
    Disk.writeAtomic_in_place ends (rfl : FileTree.login.locate _ = _) (by decide) "ab".toUTF8
  exact ⟨a, _, t₂, started, rfl, always _ _ started, run, replaced _ (runs _ _ run)⟩

end PageAccessors
