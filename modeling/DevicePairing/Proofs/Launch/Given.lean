/-
What the options say of a command line.

The words of a command line give options their values (`given`). An option
that may be given once has the last of its values, the one that may be
repeated has them all, and one that is not given has its default
(`Says`). A value that is a double dash alone, behind an equals sign,
leaves the option without a value. Taking a value in changes one option
and leaves the others, so what the options say is followed from left to
right.

The values are parts of the words, so they are made of characters if the
words are.
-/
import DevicePairing.Launch.Options
import DevicePairing.Proofs.Json.Reading
import DevicePairing.Proofs.Text.CodePoint
import DevicePairing.Proofs.Text.Path

namespace DevicePairing.Launch

-- =============================================================== values

/-- The options that words give, with their values, from left to right. One
that takes no value has an empty one. -/
def given : List Word → List (Key × Text)
  | [] => []
  | .option .servePairing _ _ :: ws => (.servePairing, []) :: given ws
  | .option k _ (some v) :: ws => (k, v) :: given ws
  | .option k _ none :: .plain v :: ws => (k, v) :: given ws
  | _ :: ws => given ws

/-- The values that an option is given. -/
def valuesOf (k : Key) (gs : List (Key × Text)) : List Text :=
  (gs.filter (·.1 = k)).map (·.2)

/-- A value as it is heard: a double dash is none. -/
def heard (v : Text) : Given Text :=
  if v = Text.ofString "--" then .nothing else .value v

/-- The path that is heard of a value. -/
def heardPath (v : Text) : Given Text :=
  if v = Text.ofString "--" then .nothing else .value (Path.tidy v)

/-- What the options say, if these are given. -/
structure Says (gs : List (Key × Text)) (o : Options) : Prop where
  uniqueId : o.uniqueId = (valuesOf .uniqueId gs).getLast?.map heard
  cells : match (valuesOf .cells gs).getLast? with
    | none => o.cells = .value 4
    | some v => givenBy (readInteger .cells) v = .ok o.cells
  pairingUrl : o.pairingUrl
    = ((valuesOf .pairingUrl gs).getLast?.map heard).getD
      (.value "http://localhost:5000")
  servePairing : o.servePairing = true ↔ valuesOf .servePairing gs ≠ []
  register : o.register = (valuesOf .register gs).map heard
  journalOut : o.journalOut = (valuesOf .journalOut gs).getLast?.map heardPath

variable {gs : List (Key × Text)} {o o' : Options} {k : Key} {v : Text}

theorem valuesOf_snoc (k k' : Key) (v : Text) (gs : List (Key × Text)) :
    valuesOf k (gs ++ [(k', v)])
      = valuesOf k gs ++ if k' = k then [v] else [] := by
  rw [valuesOf, List.filter_append, List.map_append]
  by_cases h : k' = k
  · rw [if_pos h, List.filter_cons_of_pos (by simpa using h)]
    rfl
  · rw [if_neg h, List.filter_cons_of_neg (by simpa using h)]
    rfl

theorem getLast?_valuesOf_snoc (k k' : Key) (v : Text)
    (gs : List (Key × Text)) :
    (valuesOf k (gs ++ [(k', v)])).getLast?
      = if k' = k then some v else (valuesOf k gs).getLast? := by
  rw [valuesOf_snoc]
  split
  · exact List.getLast?_concat
  · rw [List.append_nil]

theorem givenBy_ok (v : Text) : givenBy .ok v = .ok (heard v) := by
  unfold givenBy heard
  split <;> rfl

theorem givenBy_path (v : Text) :
    givenBy (fun v => .ok (Path.tidy v)) v = .ok (heardPath v) := by
  unfold givenBy heardPath
  split <;> rfl

/-- A value that is taken in changes its option and leaves the others. -/
structure Takes (o : Options) (k : Key) (v : Text) (o' : Options) : Prop where
  uniqueId : o'.uniqueId = if k = .uniqueId then some (heard v) else o.uniqueId
  cells : if k = .cells then givenBy (readInteger .cells) v = .ok o'.cells
    else o'.cells = o.cells
  pairingUrl : o'.pairingUrl = if k = .pairingUrl then heard v else o.pairingUrl
  servePairing : o'.servePairing = (k == .servePairing || o.servePairing)
  register : o'.register = o.register ++ if k = .register then [heard v] else []
  journalOut : o'.journalOut
    = if k = .journalOut then some (heardPath v) else o.journalOut

theorem takes_of_setValue (h : setValue o k v = .ok o') : Takes o k v o' := by
  cases k with
  | cells =>
      obtain ⟨x, hx, rfl⟩ := map_eq_ok.mp h
      exact ⟨rfl, hx, rfl, rfl, (List.append_nil _).symm, rfl⟩
  | timeout | webPort =>
      obtain ⟨x, -, rfl⟩ := map_eq_ok.mp h
      exact ⟨rfl, rfl, rfl, rfl, (List.append_nil _).symm, rfl⟩
  | journalOut =>
      rw [setValue, givenBy_path] at h
      cases h
      exact ⟨rfl, rfl, rfl, rfl, (List.append_nil _).symm, rfl⟩
  | register =>
      rw [setValue, givenBy_ok] at h
      cases h
      exact ⟨rfl, rfl, rfl, rfl, rfl, rfl⟩
  | uniqueId | pairingUrl | webHost =>
      rw [setValue, givenBy_ok] at h
      cases h
      exact ⟨rfl, rfl, rfl, rfl, (List.append_nil _).symm, rfl⟩
  | servePairing | help =>
      cases h
      exact ⟨rfl, rfl, rfl, rfl, (List.append_nil _).symm, rfl⟩

/-- What the options say, with one more given. -/
theorem Says.snoc (h : Says gs o) (htakes : Takes o k v o') :
    Says (gs ++ [(k, v)]) o' where
  uniqueId := by
    rw [htakes.uniqueId, getLast?_valuesOf_snoc, h.uniqueId]
    split <;> rfl
  cells := by
    have hcells := htakes.cells
    rw [getLast?_valuesOf_snoc]
    by_cases hk : k = .cells
    · rw [if_pos hk] at hcells ⊢
      exact hcells
    · rw [if_neg hk] at hcells ⊢
      rw [hcells]
      exact h.cells
  pairingUrl := by
    rw [htakes.pairingUrl, getLast?_valuesOf_snoc, h.pairingUrl]
    split <;> rfl
  servePairing := by
    rw [htakes.servePairing, valuesOf_snoc, Bool.or_eq_true, h.servePairing,
      beq_iff_eq]
    by_cases hk : k = .servePairing
    · simp [hk]
    · simp [hk]
  register := by
    rw [htakes.register, valuesOf_snoc, List.map_append, h.register]
    split <;> rfl
  journalOut := by
    rw [htakes.journalOut, getLast?_valuesOf_snoc, h.journalOut]
    split <;> rfl

/-- No option says anything but its default. -/
theorem says_nil : Says [] {} where
  uniqueId := rfl
  cells := rfl
  pairingUrl := rfl
  servePairing := by simp [valuesOf]
  register := rfl
  journalOut := rfl

/-- Words that take effect say what they give. -/
theorem says_takeEffect {p p' : Progress} {ws : List Word}
    (h : takeEffect p ws = .ok (some p')) (htold : Says gs p.options) :
    Says (gs ++ given ws) p'.options := by
  fun_induction takeEffect p ws generalizing gs with
  | case1 p =>
      cases h
      exact (List.append_nil gs).symm ▸ htold
  | case2 p t ws ih => exact ih h htold
  | case3 p t ws ih => exact ih h htold
  | case4 p ws ih => exact ih h htold
  | case5 p isShort value ws =>
      obtain ⟨_, -, heq⟩ := map_eq_ok.mp h
      cases heq
  | case6 p isShort ws v => cases h
  | case7 p isShort ws ih =>
      have hnext :=
        ih h (htold.snoc (takes_of_setValue (k := .servePairing) (v := []) rfl))
      rw [List.append_assoc] at hnext
      exact hnext
  | case8 p k isShort v ws hhelp hserve ih =>
      obtain ⟨options, hset, h⟩ := bind_eq_ok.mp h
      have hnext := ih options h (htold.snoc (takes_of_setValue hset))
      rw [List.append_assoc] at hnext
      rw [given]
      · exact hnext
      · exact hserve
  | case9 p k isShort v ws hhelp hserve ih =>
      obtain ⟨options, hset, h⟩ := bind_eq_ok.mp h
      have hnext := ih options h (htold.snoc (takes_of_setValue hset))
      rw [List.append_assoc] at hnext
      rw [given]
      · exact hnext
      · exact hserve
  | case10 p k isShort ws => cases h

-- =============================================================== parts

/-- What a word has in it. -/
def Word.parts : Word → List Text
  | .option _ _ value => value.toList
  | .unknown t | .plain t => [t]
  | .doubleDash => []

/-- The parts of a word consist of code points of a text. -/
def Word.IsWithin (w : Word) (t : Text) : Prop := ∀ v ∈ w.parts, v ⊆ t

theorem subset_of_cut {sep : CodePoint} {t v : Text}
    (h : (Text.cut sep t).2 = some v) : v ⊆ t := by
  rw [Text.eq_of_cut (t := t) rfl, h]
  exact fun p hp => List.mem_append_right _ (List.mem_cons_of_mem _ hp)

theorem isWithin_plain (t : Text) : (Word.plain t).IsWithin t :=
  List.forall_mem_singleton.mpr (List.Subset.refl t)

theorem isWithin_classifyOther (t : Text) : (classifyOther t).IsWithin t := by
  unfold classifyOther
  split <;> exact isWithin_plain t

theorem isWithin_option {k : Key} {isShort : Bool} {value : Option Text}
    {t : Text} (h : ∀ v, value = some v → v ⊆ t) :
    (Word.option k isShort value).IsWithin t :=
  fun v hv => h v (Option.mem_toList.mp hv)

/-- A word is made of what is there. -/
theorem isWithin_of_classify {t : Text} {w : Word} (h : classify t = .ok w) :
    w.IsWithin t := by
  unfold classify at h
  split at h
  · split at h
    · cases h
      exact isWithin_option fun v hv => by cases hv
    · dsimp only at h
      split at h
      · cases h
        exact isWithin_plain _
      · rename_i hvalue
        cases h
        refine isWithin_option fun v hv => ?_
        cases hv
        exact subset_of_cut hvalue
      · split at h
        · cases h
          exact isWithin_classifyOther _
        · cases h
          exact isWithin_option fun v hv => subset_of_cut hv
        · cases h
      · split at h
        · cases h
          refine isWithin_option fun v hv => ?_
          cases hv
          exact fun p hp => List.mem_cons_of_mem _ (List.mem_cons_of_mem _ hp)
        · cases h
          exact isWithin_classifyOther _
  · cases h
    exact isWithin_plain t

/-- So all words of a command line are made of characters if its texts are. -/
theorem isScalar_of_classifyAll {ts : List Text} {ws : List Word}
    (hts : ∀ t ∈ ts, t.IsScalar) (h : classifyAll ts = .ok ws) :
    ∀ w ∈ ws, ∀ v ∈ w.parts, v.IsScalar := by
  induction ts generalizing ws with
  | nil =>
      cases h
      exact fun w hw => absurd hw List.not_mem_nil
  | cons t ts ih =>
      obtain ⟨ht, hts⟩ := List.forall_mem_cons.mp hts
      rw [classifyAll] at h
      split at h
      · cases h
        refine List.forall_mem_cons.mpr
          ⟨fun v hv => absurd hv List.not_mem_nil, ?_⟩
        intro w hw v hv
        obtain ⟨t', ht', rfl⟩ := List.mem_map.mp hw
        exact fun p hp => hts t' ht' p (isWithin_plain t' v hv hp)
      · obtain ⟨w, hw, h⟩ := bind_eq_ok.mp h
        obtain ⟨ws, hws, h⟩ := bind_eq_ok.mp h
        cases h
        refine List.forall_mem_cons.mpr ⟨?_, ih hts hws⟩
        exact fun v hv p hp => ht p (isWithin_of_classify hw v hv hp)

/-- And so are the values that the words give. -/
theorem isScalar_given {ws : List Word}
    (h : ∀ w ∈ ws, ∀ v ∈ w.parts, v.IsScalar) :
    ∀ g ∈ given ws, g.2.IsScalar := by
  fun_induction given ws with
  | case1 => exact fun g hg => absurd hg List.not_mem_nil
  | case2 _ _ ws ih =>
      obtain ⟨-, hws⟩ := List.forall_mem_cons.mp h
      exact List.forall_mem_cons.mpr
        ⟨fun p hp => absurd hp List.not_mem_nil, ih hws⟩
  | case3 k _ v ws hserve ih =>
      obtain ⟨hw, hws⟩ := List.forall_mem_cons.mp h
      exact List.forall_mem_cons.mpr ⟨hw v List.mem_cons_self, ih hws⟩
  | case4 k _ v ws hserve ih =>
      obtain ⟨-, hws⟩ := List.forall_mem_cons.mp h
      obtain ⟨hv, hws⟩ := List.forall_mem_cons.mp hws
      exact List.forall_mem_cons.mpr ⟨hv v List.mem_cons_self, ih hws⟩
  | case5 w ws _ _ _ ih => exact ih (List.forall_mem_cons.mp h).2

-- ======================================================== command lines

theorem mem_of_getLast?_valuesOf (h : (valuesOf k gs).getLast? = some v) :
    (k, v) ∈ gs := by
  obtain ⟨g, hg, rfl⟩ := List.mem_map.mp (List.mem_of_getLast? h)
  obtain ⟨hg, hk⟩ := List.mem_filter.mp hg
  rw [← of_decide_eq_true hk]
  exact hg

/-- A device that is named is named by a text that was given. -/
theorem Says.mem_uniqueId (h : Says gs o) {u : Text}
    (hu : o.uniqueId = some (.value u)) : (.uniqueId, u) ∈ gs := by
  rw [h.uniqueId, Option.map_eq_some_iff] at hu
  obtain ⟨v, hv, hheard⟩ := hu
  unfold heard at hheard
  split at hheard
  · cases hheard
  · cases hheard
    exact mem_of_getLast?_valuesOf hv

/-- A command line that is accepted gives options, and they say what was
given. -/
theorem says_of_ofWords {argv : List Text}
    (h : Command.ofWords argv = .ok (.run o)) :
    ∃ ws uniqueId, classifyAll argv = .ok ws ∧ Says (given ws) o
      ∧ o.uniqueId = some uniqueId := by
  obtain ⟨ws, hws, h⟩ := bind_eq_ok.mp h
  obtain ⟨p, hp, h⟩ := bind_eq_ok.mp h
  cases p with
  | none => cases h
  | some p =>
      have htold := says_takeEffect hp says_nil
      dsimp only at h
      split at h
      · cases h
      split at h
      · cases h
      · rename_i hsome _
        cases h
        obtain ⟨uniqueId, hid⟩ :=
          Option.ne_none_iff_exists'.mp (mt Option.isNone_iff_eq_none.mpr hsome)
        exact ⟨ws, uniqueId, hws, htold, hid⟩

end DevicePairing.Launch
