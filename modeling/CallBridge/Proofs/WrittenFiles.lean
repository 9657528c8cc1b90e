import CallBridge.FileTree
import CallBridge.Index
import CallBridge.Proofs.Utf8
import Mathlib.Data.List.Basic
import Mathlib.Tactic.SplitIfs

/-!
A file that was written holds what was written to it.
-/

namespace CallBridge

theorem Except.exists_of_bind_eq_ok {ε α γ : Type} {x : Except ε α} {f : α → Except ε γ} {c : γ}
    (h : x >>= f = .ok c) : ∃ a, x = .ok a ∧ f a = .ok c := by
  cases x with
  | error e => cases h
  | ok a => exact ⟨a, rfl, h⟩

namespace FileTree

variable {t t' : FileTree} {here place p : Place} {node : FileNode} {name path : String}
  {names rest : List String} {bytes : List UInt8}

theorem node?_set (h : t.node? place ≠ some .directory) (p : Place) :
    (t.set place node).node? p = if p = place then some node else t.node? p := by
  by_cases hp : p = [] ∨ p = [t.home]
  · have hne : p ≠ place := by
      rintro rfl
      exact h (if_pos hp)
    rw [if_neg hne]
    exact (if_pos hp).trans (if_pos hp).symm
  · have hput := Index.lookup_put place p node t.nodes
    have hbeq : instBEqOfDecidableEq = (List.instBEq : BEq Place) := lawful_beq_subsingleton _ _
    rw [Index.put, Index.erase, hbeq] at hput
    rw [node?, set, if_neg hp, node?, if_neg hp]
    exact hput

/-- A walk that leads somewhere goes on from a directory, and where it goes next depends on the name
only. -/
theorem walk_cons_eq_ok (h : t.walk here (name :: rest) = .ok p) :
    t.node? here = some .directory ∧ ∃ next, t.walk next rest = .ok p ∧
      ∀ (t' : FileTree) (rest' : List String), t'.node? here = some .directory →
        t'.walk here (name :: rest') = t'.walk next rest' := by
  rw [walk] at h
  split at h
  next => nomatch h
  next => nomatch h
  next hnode =>
    refine ⟨hnode, ?_⟩
    split_ifs at h with hstay hup hlong
    · refine ⟨here, h, fun t' rest' hnode' => ?_⟩
      rw [walk, hnode']
      exact if_pos hstay
    · refine ⟨here.dropLast, h, fun t' rest' hnode' => ?_⟩
      rw [walk, hnode']
      exact (if_neg hstay).trans (if_pos hup)
    · refine ⟨here ++ [name], h, fun t' rest' hnode' => ?_⟩
      rw [walk, hnode']
      exact (if_neg hstay).trans ((if_neg hup).trans (if_neg hlong))

theorem walk_append (h : t.walk here names = .ok p) (rest : List String) :
    t.walk here (names ++ rest) = t.walk p rest := by
  induction names generalizing here with
  | nil =>
    obtain rfl := Except.ok.inj h
    rfl
  | cons name names ih =>
    obtain ⟨hnode, next, hnext, hgo⟩ := walk_cons_eq_ok h
    rw [List.cons_append, hgo t _ hnode, ih hnext]

theorem walk_of_walkInto (h : t.walkInto here names = .ok p) : t.walk here names = .ok p := by
  rw [walkInto] at h
  induction names generalizing here with
  | nil =>
    rw [List.nil_append, walk] at h
    split at h
    next => nomatch h
    next => nomatch h
    next => exact (if_pos (.inr rfl)).symm.trans h
  | cons name names ih =>
    obtain ⟨hnode, next, hnext, hgo⟩ := walk_cons_eq_ok h
    rw [hgo _ _ hnode, ih hnext]

/-- What is changed at a place that is no directory is on no way. -/
theorem walk_set (hplace : t.node? place ≠ some .directory) (h : t.walk here names = .ok p) :
    (t.set place node).walk here names = .ok p := by
  induction names generalizing here with
  | nil => exact h
  | cons name names ih =>
    obtain ⟨hnode, next, hnext, hgo⟩ := walk_cons_eq_ok h
    have hne : here ≠ place := by
      rintro rfl
      exact hplace hnode
    rw [hgo _ _ (by rw [node?_set hplace, if_neg hne, hnode]), ih hnext]

/-- Empty names do not count, but for the last. -/
theorem walk_of_filter (h : t.walk here (names.filter (· ≠ "")) = .ok p)
    (hlast : names.getLast? ≠ some "") : t.walk here names = .ok p := by
  induction names generalizing here with
  | nil => exact h
  | cons name rest ih =>
    have hrest : rest.getLast? ≠ some "" := by
      cases rest with
      | nil => nofun
      | cons => rwa [List.getLast?_cons_cons] at hlast
    by_cases hname : name = ""
    · subst hname
      rw [List.filter_cons_of_neg (by simp)] at h
      have hwalk := ih h hrest
      cases rest with
      | nil => exact absurd rfl hlast
      | cons =>
        obtain ⟨hnode, -⟩ := walk_cons_eq_ok hwalk
        rw [walk, hnode]
        exact (if_pos (.inl rfl)).trans hwalk
    · rw [List.filter_cons_of_pos (by simpa using hname)] at h
      obtain ⟨hnode, next, hnext, hgo⟩ := walk_cons_eq_ok h
      rw [hgo _ _ hnode, ih hnext hrest]

/-- A path at which a file can be written, and the place that it leads to. -/
structure Opens (t : FileTree) (path : String) (place : Place) : Prop where
  admissible : admissible path = .ok ()
  nonempty : path ≠ ""
  walk : t.walk (t.split path).1 (t.split path).2 = .ok place
  free : t.node? place ≠ some .directory

/-- Whether a file can be written does not depend on what is to be written. -/
theorem opens_of_write (h : t.write path bytes = .ok t') :
    ∃ place, t.Opens path place ∧
      ∀ bytes, t.write path bytes = .ok (t.set place (.file bytes)) := by
  unfold write at h
  obtain ⟨_, hadmissible, h⟩ := Except.exists_of_bind_eq_ok h
  split_ifs at h with hpath
  generalize hsplit : t.split path = start at h
  obtain ⟨start, names⟩ := start
  dsimp only at h
  obtain ⟨directory, hdirectory, h⟩ := Except.exists_of_bind_eq_ok h
  split at h
  next name last hname hlast =>
    split_ifs at h with hspecial
    obtain ⟨place, hplace, h⟩ := Except.exists_of_bind_eq_ok h
    split at h
    next => nomatch h
    next hfree =>
    refine ⟨place, ⟨hadmissible, hpath, ?_, hfree⟩, fun bytes => ?_⟩
    · have hnamed : t.walk start (names.filter (· ≠ "")) = .ok place := by
        rw [← List.dropLast_append_getLast? name hname, walk_append (walk_of_walkInto hdirectory),
          hplace]
      rw [hsplit]
      refine walk_of_filter hnamed ?_
      rw [hlast]
      rintro ⟨⟩
      exact hspecial (.inr (.inr rfl))
    · simp only [write, hadmissible, if_neg hpath, hsplit, hdirectory, hname, hlast,
        if_neg hspecial, hplace, bind, Except.bind]
  next => nomatch h

theorem Opens.read_set (h : t.Opens path place) (bytes : List UInt8) :
    (t.set place (.file bytes)).read path = .ok bytes := by
  have hresolve : (t.set place (.file bytes)).resolve path = .ok place := by
    rw [resolve, h.admissible]
    exact (if_neg h.nonempty).trans (walk_set h.free h.walk)
  simp only [read, hresolve, bind, Except.bind, node?_set h.free, if_true]

/-- Text that was written is read as it was. -/
theorem readText_write {text : String} (h : t.write path (Utf8.bytes text) = .ok t') :
    t'.readText path = .ok text := by
  obtain ⟨place, hopens, hwrite⟩ := opens_of_write h
  obtain rfl := Except.ok.inj (h.symm.trans (hwrite _))
  have hdecode : Utf8.decode? (Utf8.bytes text) = some text.toList := by
    rw [Utf8.decode?, Utf8.bytes, Utf8.decodeLossy_encode]
    exact if_pos rfl
  simp only [readText, hopens.read_set, bind, Except.bind, hdecode, String.ofList_toList]

end FileTree

end CallBridge
