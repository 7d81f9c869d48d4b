/-
What becomes of the other files.

A store is changed in one place at a time: what is put at a place is
found there and nowhere else, and directories stay what they were, unless
a file is put below a place that was none. The lines and the tables of a
journal lie side by side in one directory and have different names, so
writing tables never touches the lines.
-/
import DevicePairing.Journal.Store
import DevicePairing.Proofs.Text.Path

namespace DevicePairing.Store

/-- A file that is put where there was one keeps its place among the files. -/
theorem fst_map_put (p : Place) (c : Content) (files : List (Place × Content)) :
    (files.map fun (q, d) => if q = p then (q, c) else (q, d)).map (·.1)
      = files.map (·.1) := by
  rw [List.map_map]
  refine List.map_congr_left fun (q, d) _ => ?_
  show (if q = p then (q, c) else (q, d)).1 = q
  split <;> rfl

theorem find?_map_put {p : Place} {c : Content} {files : List (Place × Content)}
    (q : Place) :
    (files.map fun (q, d) => if q = p then (q, c) else (q, d)).find? (·.1 = q)
      = (files.find? (·.1 = q)).map fun (q, d) =>
          if q = p then (q, c) else (q, d) := by
  rw [List.find?_map]
  congr 2
  funext (q', d)
  show decide ((if q' = p then (q', c) else (q', d)).1 = q) = decide (q' = q)
  split <;> rfl

-- =============================================================== places

/-- A file is found where it was put. -/
theorem file?_put_self (s : Store) (p : Place) (c : Content) :
    (s.put p c).file? p = some c := by
  unfold put
  split
  · rename_i hfile
    obtain ⟨d, hd⟩ := Option.isSome_iff_exists.mp hfile
    obtain ⟨⟨q, d'⟩, hfind, rfl⟩ := Option.map_eq_some_iff.mp hd
    have hq : q = p := by simpa using List.find?_some hfind
    rw [file?, find?_map_put, hfind]
    simp [hq]
  · rename_i hfile
    have hnone : s.files.find? (·.1 = p) = none := by
      rw [isFile, Option.not_isSome_iff_eq_none, file?,
        Option.map_eq_none_iff] at hfile
      exact hfile
    rw [file?, List.find?_append, hnone]
    simp

/-- It is in no other place. -/
theorem file?_put_of_ne (s : Store) {p q : Place} (h : q ≠ p) (c : Content) :
    (s.put p c).file? q = s.file? q := by
  unfold put
  split
  · rw [file?, find?_map_put, Option.map_map, file?]
    cases hfind : s.files.find? (·.1 = q) with
    | none => rfl
    | some f =>
        have hf : f.1 = q := by simpa using List.find?_some hfind
        simp [hf, h]
  · rw [file?, List.find?_append, file?]
    simp [Ne.symm h]

/-- A directory that a file is put beside or above is none the more one. -/
theorem isDirectory_put (s : Store) {p q : Place} (h : p.length ≤ q.length)
    (c : Content) :
    (s.put p c).isDirectory q = s.isDirectory q := by
  have hany (files : List (Place × Content)) :
      (files.any fun (f, _) => q.isPrefixOf f && q.length < f.length)
        = (files.map (·.1)).any fun f =>
            q.isPrefixOf f && q.length < f.length := by
    rw [List.any_map]
    rfl
  unfold put
  split
  · rw [isDirectory, isDirectory, hany, fst_map_put, ← hany]
  · rw [isDirectory, isDirectory, List.any_append]
    simp [Nat.not_lt.mpr h]

/-- What is put among the same files gives the same files. -/
theorem files_put_congr {s s' : Store} (h : s'.files = s.files) (p : Place)
    (c : Content) : (s'.put p c).files = (s.put p c).files := by
  have hfile : s'.isFile p = s.isFile p := by
    rw [isFile, isFile, file?, file?, h]
  unfold put
  rw [hfile, h]
  split <;> rfl

-- ========================================================== some places

section Some

variable {keep : Place → Bool} {p : Place} {s : Store}

theorem filter_map_put (c : Content) (files : List (Place × Content)) :
    (files.map fun (q, d) => if q = p then (q, c) else (q, d)).filter
        (fun f => keep f.1)
      = (files.filter fun f => keep f.1).map fun (q, d) =>
          if q = p then (q, c) else (q, d) := by
  rw [List.filter_map]
  congr 2
  funext (q, d)
  show keep (if q = p then (q, c) else (q, d)).1 = keep q
  split <;> rfl

theorem map_put_of_ne {files : List (Place × Content)}
    (h : ∀ f ∈ files, f.1 ≠ p) (c : Content) :
    (files.map fun (q, d) => if q = p then (q, c) else (q, d)) = files := by
  refine (List.map_congr_left fun (q, d) hf => ?_).trans (List.map_id files)
  exact if_neg (h (q, d) hf)

theorem isFile_of_mem {f : Place × Content} (h : f ∈ s.files) :
    s.isFile f.1 = true := by
  rw [isFile, file?, Option.isSome_map, List.find?_isSome]
  exact ⟨f, h, decide_eq_true rfl⟩

/-- What is put among other files leaves these as they are. -/
theorem filter_put_other (hp : keep p = false) (c : Content) :
    (s.put p c).files.filter (fun f => keep f.1)
      = s.files.filter fun f => keep f.1 := by
  unfold put
  split
  · rw [filter_map_put, map_put_of_ne]
    intro f hf heq
    have hkeep := (List.mem_filter.mp hf).2
    rw [heq, hp] at hkeep
    cases hkeep
  · rw [List.filter_append]
    simp [hp]

/-- A file that is new comes last. -/
theorem filter_put_new (hp : keep p = true) (hnew : s.file? p = none)
    (c : Content) :
    (s.put p c).files.filter (fun f => keep f.1)
      = (s.files.filter fun f => keep f.1) ++ [(p, c)] := by
  rw [put, isFile, hnew, if_neg (by simp), List.filter_append]
  simp [hp]

/-- A file that is old keeps its place. -/
theorem filter_put_old {before after : List (Place × Content)} {d : Content}
    (hold : (s.files.filter fun f => keep f.1) = before ++ (p, d) :: after)
    (hne : ∀ f ∈ before ++ after, f.1 ≠ p) (c : Content) :
    (s.put p c).files.filter (fun f => keep f.1)
      = before ++ (p, c) :: after := by
  have hmem : (p, d) ∈ s.files := by
    have hkept : (p, d) ∈ s.files.filter fun f => keep f.1 := by
      rw [hold]
      exact List.mem_append_right _ List.mem_cons_self
    exact (List.mem_filter.mp hkept).1
  obtain ⟨hbefore, hafter⟩ := List.forall_mem_append.mp hne
  rw [put, if_pos (isFile_of_mem hmem), filter_map_put, hold, List.map_append,
    List.map_cons, map_put_of_ne hbefore, map_put_of_ne hafter]
  simp

end Some

-- ========================================================== directories

/-- Making directories changes no file. -/
theorem files_makeRest (path : Text) (names : List Text) (s : Store)
    (isMaking : Bool) (seen : List Text) (p : Place) :
    (makeRest path s isMaking seen p names).2.files = s.files := by
  induction names generalizing s isMaking seen p with
  | nil => rfl
  | cons name names ih =>
      unfold makeRest
      dsimp only
      split
      · exact ih ..
      split
      · rfl
      split
      · split <;> rfl
      split
      · exact ih ..
      · exact ih ..

/-- Making directories leaves all files as they are. -/
theorem files_makeDirectory (s : Store) (path : Text) :
    (s.makeDirectory path).2.files = s.files := by
  unfold makeDirectory
  split
  · rfl
  split
  · rfl
  · exact files_makeRest path _ s false [] []

end DevicePairing.Store
