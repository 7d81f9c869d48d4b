/-
Where a name below a path lies.

A name is put behind a path with a slash between, unless the path has one
already or is the lone dot. Either way the name is one segment more, so
the place of the name is the place of the path with the name at its end.
-/
import DevicePairing.Text.Path

namespace DevicePairing

namespace Text

theorem pieces_ne_nil (sep : CodePoint) (t : Text) : pieces sep t ≠ [] := by
  cases t with
  | nil => exact List.cons_ne_nil _ _
  | cons c t =>
      unfold pieces
      split
      · exact List.cons_ne_nil _ _
      · split <;> exact List.cons_ne_nil _ _

/-- A text without the separator is one piece. -/
theorem pieces_of_not_mem {sep : CodePoint} {t : Text} (ht : sep ∉ t) :
    pieces sep t = [t] := by
  induction t with
  | nil => rfl
  | cons c t ih =>
      rw [List.mem_cons, not_or] at ht
      rw [pieces, if_neg (Ne.symm ht.1), ih ht.2]

/-- The pieces on both sides of a separator. -/
theorem pieces_append (sep : CodePoint) (s t : Text) :
    pieces sep (s ++ sep :: t) = pieces sep s ++ pieces sep t := by
  induction s with
  | nil => simp [pieces]
  | cons c s ih =>
      rw [List.cons_append, pieces, pieces]
      split
      · rw [ih]
        rfl
      · rw [ih]
        cases hs : pieces sep s with
        | nil => exact absurd hs (pieces_ne_nil sep s)
        | cons p ps => rfl

/-- A text begins with its first piece. -/
theorem first_piece {sep : CodePoint} {t q : Text} {qs : List Text}
    (h : pieces sep t = q :: qs) : ∃ r, t = q ++ r := by
  induction t generalizing q qs with
  | nil =>
      cases h
      exact ⟨[], rfl⟩
  | cons c t ih =>
      rw [pieces] at h
      split at h
      · cases h
        exact ⟨_, rfl⟩
      · cases ht : pieces sep t with
        | nil => exact absurd ht (pieces_ne_nil sep t)
        | cons p ps =>
            rw [ht] at h
            cases h
            obtain ⟨r, rfl⟩ := ih ht
            exact ⟨r, rfl⟩

/-- Texts without the separator are the pieces of their join. -/
theorem pieces_join {sep : CodePoint} {ts : List Text} (hne : ts ≠ [])
    (h : ∀ t ∈ ts, sep ∉ t) : pieces sep (join [sep] ts) = ts := by
  induction ts with
  | nil => exact absurd rfl hne
  | cons t ts ih =>
      have ht := pieces_of_not_mem (h t List.mem_cons_self)
      cases ts with
      | nil => exact ht
      | cons u us =>
          have ih := ih (List.cons_ne_nil _ _)
            fun v hv => h v (List.mem_cons_of_mem _ hv)
          rw [join, List.append_assoc, List.singleton_append, pieces_append, ht,
            ih, List.singleton_append]
          exact List.cons_ne_nil _ _

theorem cut_of_not_mem {sep : CodePoint} {t : Text} (ht : sep ∉ t) :
    cut sep t = (t, none) := by
  induction t with
  | nil => rfl
  | cons c t ih =>
      rw [List.mem_cons, not_or] at ht
      rw [cut, if_neg (Ne.symm ht.1), ih ht.2]

/-- The first separator is where a text is cut. -/
theorem cut_append {sep : CodePoint} {s : Text} (hs : sep ∉ s) (t : Text) :
    cut sep (s ++ sep :: t) = (s, some t) := by
  induction s with
  | nil => rw [List.nil_append, cut, if_pos rfl]
  | cons c s ih =>
      rw [List.mem_cons, not_or] at hs
      rw [List.cons_append, cut, if_neg (Ne.symm hs.1), ih hs.2]

/-- What stands behind the last separator is found from the end. -/
theorem eq_of_last_sep {sep : CodePoint} {a b c d : Text} (hb : sep ∉ b)
    (hd : sep ∉ d) (h : a ++ sep :: b = c ++ sep :: d) : b = d := by
  have hrev : b.reverse ++ sep :: a.reverse
      = d.reverse ++ sep :: c.reverse := by
    simpa using congrArg List.reverse h
  have hcut := congrArg (cut sep) hrev
  rw [cut_append (mt List.mem_reverse.mp hb),
    cut_append (mt List.mem_reverse.mp hd)] at hcut
  exact List.reverse_inj.mp (congrArg Prod.fst hcut)

/-- A text is what a cut makes of it. -/
theorem eq_of_cut {sep : CodePoint} {t a : Text} {b : Option Text}
    (h : cut sep t = (a, b)) : t = a ++ b.elim [] (sep :: ·) := by
  induction t generalizing a b with
  | nil =>
      cases h
      rfl
  | cons c t ih =>
      rw [cut] at h
      split at h
      · rename_i hc
        cases h
        rw [hc]
        rfl
      · cases h
        exact congrArg (c :: ·) (ih rfl)

theorem eq_of_cutLast {sep : CodePoint} {t a b : Text}
    (h : cutLast sep t = some (a, b)) : t = a ++ sep :: b := by
  unfold cutLast at h
  split at h
  · cases h
  · rename_i after before hcut
    cases h
    have hrev := congrArg List.reverse (eq_of_cut hcut)
    simpa using hrev

end Text

namespace Path

/-- A name that can stand for a file: one segment, and neither dot. -/
structure IsName (name : Text) : Prop where
  ne_nil : name ≠ []
  no_slash : .char '/' ∉ name
  ne_dot : name ≠ Text.ofString "."
  ne_dots : name ≠ Text.ofString ".."

variable {name : Text}

theorem IsName.filter (h : IsName name) :
    [name].filter (fun s => !s.isEmpty && s != Text.ofString ".") = [name] := by
  have hne := h.ne_nil
  have hdot := h.ne_dot
  simp [hne, hdot]

theorem segments_slash (h : IsName name) (path : Text) :
    segments (path ++ .char '/' :: name) = segments path ++ [name] := by
  rw [segments, Text.pieces_append, Text.pieces_of_not_mem h.no_slash,
    List.filter_append, h.filter]
  rfl

theorem segments_name (h : IsName name) : segments name = [name] := by
  rw [segments, Text.pieces_of_not_mem h.no_slash, h.filter]

theorem segments_child (h : IsName name) (path : Text) :
    segments (child path name) = segments path ++ [name] := by
  unfold child
  split
  · subst path
    rw [segments_name h]
    rfl
  split
  · rename_i hslash
    obtain ⟨s, rfl⟩ := List.getLast?_eq_some_iff.mp hslash
    have hempty : segments (s ++ [.char '/']) = segments s := by
      rw [segments, Text.pieces_append, List.filter_append]
      exact List.append_nil _
    rw [List.append_assoc, hempty]
    exact segments_slash h s
  · have hsplit : path ++ "/" ++ name = path ++ .char '/' :: name :=
      List.append_assoc _ _ _
    rw [hsplit, segments_slash h]

/-- The place of a name below a path. -/
theorem place_child (h : IsName name) (path : Text) :
    place (child path name) = place path ++ [name] := by
  rw [place, segments_child h, List.foldl_append, List.foldl_cons,
    List.foldl_nil, if_neg h.ne_dots, List.reverse_cons]
  rfl

end Path

end DevicePairing
