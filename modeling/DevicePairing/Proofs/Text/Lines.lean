/-
Where text is added to a file, and what that does to its lines.

A text has its finished lines and, behind the last end, what is left
unfinished. Text that is added leaves the finished lines as they were,
and its first line goes on where the unfinished one stopped. Only a line
feed behind a carriage return would be different, since the two are one
end; so what is added must not begin with one.
-/
import Mathlib.Data.List.TakeWhile
import DevicePairing.Text.Lines

namespace DevicePairing.Text

/-- Whether a code point ends a line. -/
def isBreak (p : CodePoint) : Bool := p == .char '\n' || p == .char '\r'

/-- What follows the last end of a line. -/
def unfinished (t : Text) : Text := (t.reverse.takeWhile (!isBreak ·)).reverse

/-- The text up to the last end of a line. -/
def finished (t : Text) : Text := t.dropTailWhile (!isBreak ·)

/-- Whether no line ends in a text. -/
def IsUnbroken (t : Text) : Prop := ∀ p ∈ t, isBreak p = false

/-- Whether a text is empty or ends where a line does. -/
def IsEnded (t : Text) : Prop := ∀ p, t.getLast? = some p → isBreak p = true

theorem finished_append_unfinished (t : Text) :
    finished t ++ unfinished t = t := by
  rw [finished, unfinished, dropTailWhile, ← List.reverse_append,
    List.takeWhile_append_dropWhile, List.reverse_reverse]

theorem isUnbroken_unfinished (t : Text) : IsUnbroken (unfinished t) := by
  intro p hp
  simpa using List.mem_takeWhile_imp (List.mem_reverse.mp hp)

theorem isEnded_finished (t : Text) : IsEnded (finished t) := by
  intro p hp
  rw [finished, dropTailWhile, List.getLast?_reverse] at hp
  have h := List.head?_dropWhile_not (fun p => !isBreak p) t.reverse
  rw [hp] at h
  simpa using h

-- ================================================================ lines

theorem lines_cons {p : CodePoint} (hp : isBreak p = false) (t : Text) :
    lines (p :: t) = (p :: (lines t).headD []) :: (lines t).tail := by
  have hreturn : p ≠ .char '\r' := by
    rintro rfl
    cases hp
  have hfeed : p ≠ .char '\n' := by
    rintro rfl
    cases hp
  rw [lines]
  · cases lines t <;> rfl
  · intro r h _
    exact hreturn h
  · exact hreturn
  · exact hfeed

/-- A carriage return is an end, and not half of one unless a line feed
follows. -/
theorem lines_return {t : Text} (ht : t.head? ≠ some (.char '\n')) :
    lines (.char '\r' :: t) = [.char '\n'] :: lines t := by
  rw [lines]
  rintro r rfl
  exact ht rfl

/-- A line that has no end yet is one line. -/
theorem lines_of_isUnbroken {t : Text} (ht : IsUnbroken t) (hne : t ≠ []) :
    lines t = [t] := by
  induction t with
  | nil => exact absurd rfl hne
  | cons p t ih =>
      obtain ⟨hp, ht⟩ := List.forall_mem_cons.mp ht
      rw [lines_cons hp]
      cases t with
      | nil => rfl
      | cons q t =>
          rw [ih ht (List.cons_ne_nil q t)]
          rfl

/-- A line ends at a line feed. -/
theorem lines_line {t : Text} (ht : IsUnbroken t) (r : Text) :
    lines (t ++ .char '\n' :: r) = (t ++ [.char '\n']) :: lines r := by
  induction t with
  | nil => rfl
  | cons p t ih =>
      obtain ⟨hp, ht⟩ := List.forall_mem_cons.mp ht
      rw [List.cons_append, lines_cons hp, ih ht]
      rfl

theorem lines_ne_nil {t : Text} (ht : t ≠ []) : lines t ≠ [] := by
  unfold lines
  split
  · exact absurd rfl ht
  · exact List.cons_ne_nil _ _
  · exact List.cons_ne_nil _ _
  · exact List.cons_ne_nil _ _
  · split <;> exact List.cons_ne_nil _ _

theorem isBreak_eq_false {p : CodePoint} (hreturn : p ≠ .char '\r')
    (hfeed : p ≠ .char '\n') : isBreak p = false := by
  simp [isBreak, hreturn, hfeed]

theorem IsEnded.of_cons {p : CodePoint} {t : Text} (h : IsEnded (p :: t)) :
    IsEnded t := by
  intro q hq
  refine h q ?_
  rw [List.getLast?_cons, hq]
  rfl

/-- Lines that have their ends stay as they are. -/
theorem lines_append {s : Text} (hs : IsEnded s) {t : Text}
    (ht : t.head? ≠ some (.char '\n')) :
    lines (s ++ t) = lines s ++ lines t := by
  fun_induction lines s with
  | case1 => rfl
  | case2 r ih =>
      rw [List.cons_append, List.cons_append, List.cons_append,
        ← ih hs.of_cons.of_cons]
      rfl
  | case3 r hr ih =>
      rw [List.cons_append, List.cons_append, lines_return, ih hs.of_cons]
      cases r with
      | nil => exact ht
      | cons p r =>
          rintro heq
          cases heq
          exact hr r rfl
  | case4 r ih =>
      rw [List.cons_append, List.cons_append, ← ih hs.of_cons]
      rfl
  | case5 c r _ hreturn hfeed hr ih =>
      have hc := hs c
      have hnil : r = [] :=
        Decidable.byContradiction fun hne => lines_ne_nil hne hr
      rw [hnil] at hc
      rw [isBreak_eq_false hreturn hfeed] at hc
      exact absurd (hc rfl) Bool.false_ne_true
  | case6 c r _ hreturn hfeed l ls hr ih =>
      rw [List.cons_append, lines_cons (isBreak_eq_false hreturn hfeed),
        ih hs.of_cons, hr]
      rfl

/-- A line feed behind an end is the end of an empty line, or belongs to the
end in front of it. -/
theorem lines_append_feed {s : Text} (hs : IsEnded s) (r : Text) :
    ∃ ls, (ls = [[.char '\n']] ∨ ls = [])
      ∧ lines (s ++ .char '\n' :: r) = lines s ++ (ls ++ lines r) := by
  fun_induction lines s with
  | case1 => exact ⟨_, .inl rfl, rfl⟩
  | case2 q ih =>
      obtain ⟨ls, hls, h⟩ := ih hs.of_cons.of_cons
      refine ⟨ls, hls, ?_⟩
      rw [List.cons_append, List.cons_append, List.cons_append, ← h]
      rfl
  | case3 q hq ih =>
      cases q with
      | nil => exact ⟨[], .inr rfl, rfl⟩
      | cons p q =>
          obtain ⟨ls, hls, h⟩ := ih hs.of_cons
          have hhead : (p :: q ++ .char '\n' :: r).head?
              ≠ some (.char '\n') := by
            rintro heq
            cases heq
            exact hq q rfl
          refine ⟨ls, hls, ?_⟩
          rw [List.cons_append, List.cons_append, List.cons_append, ← h,
            ← lines_return hhead]
          rfl
  | case4 q ih =>
      obtain ⟨ls, hls, h⟩ := ih hs.of_cons
      refine ⟨ls, hls, ?_⟩
      rw [List.cons_append, List.cons_append, ← h]
      rfl
  | case5 c q _ hreturn hfeed hq ih =>
      have hc := hs c
      have hnil : q = [] :=
        Decidable.byContradiction fun hne => lines_ne_nil hne hq
      rw [hnil, isBreak_eq_false hreturn hfeed] at hc
      exact absurd (hc rfl) Bool.false_ne_true
  | case6 c q _ hreturn hfeed l ls' hq ih =>
      obtain ⟨ls, hls, h⟩ := ih hs.of_cons
      refine ⟨ls, hls, ?_⟩
      rw [List.cons_append, lines_cons (isBreak_eq_false hreturn hfeed), h, hq]
      rfl

/-- Behind text that has its ends, the lines of a text are lines of the
whole. Only an empty one may get lost. -/
theorem mem_lines_append {s : Text} (hs : IsEnded s) (t : Text) {l : Text}
    (hl : l ≠ [.char '\n']) :
    l ∈ lines (s ++ t) ↔ l ∈ lines s ∨ l ∈ lines t := by
  by_cases ht : t.head? = some (.char '\n')
  · obtain ⟨r, rfl⟩ := List.head?_eq_some_iff.mp ht
    have hlines : lines (.char '\n' :: r) = [.char '\n'] :: lines r := by
      rw [lines]
    obtain ⟨ls, hls, h⟩ := lines_append_feed hs r
    have hnone : l ∉ ls := by rcases hls with rfl | rfl <;> simp [hl]
    rw [h, hlines, List.mem_append, List.mem_append, List.mem_cons,
      or_iff_right hl, or_iff_right hnone]
  · rw [lines_append hs ht, List.mem_append]

/-- What holds of an empty line holds of the lines of two texts together
exactly if it holds of the lines of each. -/
theorem forall_lines_append
    {P : Text → Prop} (hfeed : P [.char '\n']) {s : Text}
    (hs : IsEnded s) (t : Text) :
    (∀ l ∈ lines (s ++ t), P l)
      ↔ (∀ l ∈ lines s, P l) ∧ ∀ l ∈ lines t, P l := by
  rw [← List.forall_mem_append]
  apply forall_congr'
  intro l
  by_cases hl : l = [.char '\n']
  · rw [hl]
    exact iff_of_true (fun _ => hfeed) fun _ => hfeed
  · rw [mem_lines_append hs t hl, List.mem_append]

/-- The same for several texts and a last one. -/
theorem forall_lines_flatten {P : Text → Prop} (hfeed : P [.char '\n'])
    {ts : List Text} (hts : ∀ t ∈ ts, IsEnded t) (rest : Text) :
    (∀ l ∈ lines (ts.flatten ++ rest), P l)
      ↔ (∀ t ∈ ts, ∀ l ∈ lines t, P l) ∧ ∀ l ∈ lines rest, P l := by
  induction ts with
  | nil => simp
  | cons t ts ih =>
      obtain ⟨ht, hts⟩ := List.forall_mem_cons.mp hts
      rw [List.flatten_cons, List.append_assoc, forall_lines_append hfeed ht,
        ih hts, List.forall_mem_cons, and_assoc]

/-- So the order of texts that have their ends does not matter. -/
theorem forall_lines_perm {P : Text → Prop} (hfeed : P [.char '\n'])
    {ts ts' : List Text} (hts : ∀ t ∈ ts, IsEnded t) (hperm : ts.Perm ts')
    (rest : Text) :
    (∀ l ∈ lines (ts.flatten ++ rest), P l)
      ↔ ∀ l ∈ lines (ts'.flatten ++ rest), P l := by
  have hts' : ∀ t ∈ ts', IsEnded t := fun t ht => hts t (hperm.mem_iff.mpr ht)
  rw [forall_lines_flatten hfeed hts, forall_lines_flatten hfeed hts']
  apply and_congr_left'
  apply forall_congr'
  intro t
  rw [hperm.mem_iff]

/-- The lines of a text: those that are finished, and what is left. -/
theorem lines_eq (t : Text) :
    lines t = lines (finished t)
      ++ if unfinished t = [] then [] else [unfinished t] := by
  have hunbroken := isUnbroken_unfinished t
  conv => lhs; rw [← finished_append_unfinished t]
  rw [lines_append (isEnded_finished t)]
  · split
    · rename_i hnil
      rw [hnil]
      rfl
    · rw [lines_of_isUnbroken hunbroken ‹_›]
  · intro hhead
    cases hunbroken _ (List.mem_of_head? hhead)

theorem mem_lines_of_finished {t l : Text} (hl : l ∈ lines (finished t)) :
    l ∈ lines t := by
  rw [lines_eq]
  exact List.mem_append_left _ hl

/-- Added text goes on where the unfinished line stopped. -/
theorem lines_append_line (t : Text) {l : Text} (hl : IsUnbroken l)
    (hne : l ≠ []) (r : Text) :
    lines (t ++ (l ++ .char '\n' :: r))
      = lines (finished t) ++ (unfinished t ++ l ++ [.char '\n'])
        :: lines r := by
  have hunbroken : IsUnbroken (unfinished t ++ l) :=
    List.forall_mem_append.mpr ⟨isUnbroken_unfinished t, hl⟩
  conv => lhs; arg 1; arg 1; rw [← finished_append_unfinished t]
  rw [List.append_assoc, lines_append (isEnded_finished t),
    ← List.append_assoc (unfinished t), lines_line hunbroken]
  intro hhead
  have hsome : (unfinished t ++ l).head?.isSome :=
    List.isSome_head?.mpr (by simp [hne])
  rw [← List.append_assoc, List.head?_append,
    Option.or_of_isSome hsome] at hhead
  cases hunbroken _ (List.mem_of_head? hhead)

end DevicePairing.Text
