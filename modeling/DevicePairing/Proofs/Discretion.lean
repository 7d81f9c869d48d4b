/-
What a client lets out of a PIN.

A client asks for one URL, and the PIN stands in that URL and nowhere
else. So what a submission comes to at first is the same for all PINs of
one length: it is refused for the same fault, or it is sent and waits.
What is printed on the way is the same too, with one exception. A URL
whose scheme begins like one of the web's but is none of them gets its
parameters, and is then refused by its name: the refusal quotes it, and
the PIN with it. `discloses` tells these submissions from all others.
-/
import DevicePairing.Proofs.Client
import DevicePairing.Proofs.Url.Inset

namespace DevicePairing

open Text (IsPin)

-- ================================================================= quotes

namespace Text

theorem quotedPoint_digit (quote : Char) (h : quote = '"' ∨ quote = '\'') :
    ∀ d : Digit, quotedPoint quote (.char d.char) = [.char d.char] := by
  rcases h with rfl | rfl <;> decide +kernel

/-- A PIN is quoted as it is, in the same surroundings as any other. -/
theorem quoted_inset (n : Nat) (before after : Text) :
    ∃ l r, ∀ pin, IsPin n pin →
      quoted (before ++ (pin ++ after)) = l ++ (pin ++ r) := by
  let quote := quoteFor (before ++ after)
  have hquote : quote = '"' ∨ quote = '\'' := by
    show quoteFor _ = _ ∨ quoteFor _ = _
    unfold quoteFor
    split
    · exact .inl rfl
    · exact .inr rfl
  refine ⟨.char quote :: before.flatMap (quotedPoint quote),
    after.flatMap (quotedPoint quote) ++ [.char quote], fun pin hpin => ?_⟩
  have hsame : quoteFor (before ++ (pin ++ after)) = quote := by
    have hnone {c : Char} (hc : ∀ d : Digit, CodePoint.char d.char ≠ .char c) :
        pin.contains (.char c) = false := by
      rw [← Bool.not_eq_true, List.contains_iff_mem]
      exact fun hmem => hpin.forall (P := (· ≠ .char c)) hc _ hmem rfl
    show _ = quoteFor (before ++ after)
    unfold quoteFor
    simp only [List.contains_append, hnone (c := '\'') (by decide),
      hnone (c := '"') (by decide), Bool.false_or]
  have hkept : pin.flatMap (quotedPoint quote) = pin := by
    rw [List.flatMap_def, List.map_congr_left
      (hpin.forall (P := fun p => quotedPoint quote p = [p])
        (quotedPoint_digit quote hquote)), ← List.flatMap_def]
    exact List.flatMap_singleton' pin
  rw [quoted, hsame]
  simp [hkept]

end Text

namespace Client

variable {c : Client} {n : Nat}

/-- Whether the client refuses a submission in words that quote its PIN:
the URL is put together, parameters included, and then there is nobody
who could send it. -/
def discloses (c : Client) (s : Submission) : Bool :=
  !Url.isForeign c.endpoint.trimLeft
    && match c.prepared s with
      | .ok url => !Url.isServed url
      | .error _ => false

/-- What the client asks for on behalf of a device, whatever the PIN. -/
inductive Asks (c : Client) (u : Json) (n : Nat) : Prop
  | refused (f : Fault)
      (h : ∀ pin, pin.IsPin n → c.request ⟨u, .str pin⟩ = .error f
        ∧ c.discloses ⟨u, .str pin⟩ = false)
  | sent (before after : Text)
      (h : ∀ pin, pin.IsPin n → c.request ⟨u, .str pin⟩
          = .ok ⟨before ++ (pin ++ after), c.timeout⟩
        ∧ c.discloses ⟨u, .str pin⟩ = false)
  | disclosed (l r : Text)
      (h : ∀ pin, pin.IsPin n → c.request ⟨u, .str pin⟩
          = .error ⟨.unservedScheme, l ++ (pin ++ r)⟩
        ∧ c.discloses ⟨u, .str pin⟩ = true)

/-- What a client asks for is up to the netrc file first, and then to the
making of the URL. -/
theorem prepared_of_listed {given : Option (Text × Text)}
    (h : c.listed = .ok given) (s : Submission) :
    c.prepared s
      = Url.prepare c.environment.names given c.endpoint s.parameters := by
  rw [prepared, h]
  rfl

theorem prepared_of_not_listed {f : Fault} (h : c.listed = .error f)
    (s : Submission) : c.prepared s = .error f := by
  rw [prepared, h]
  rfl

theorem request_of_prepared {s : Submission} {url : Text}
    (h : c.prepared s = .ok url) :
    c.request s
      = if Url.isServed url then .ok ⟨url, c.timeout⟩
        else .error (unserved url) := by
  rw [request, h]
  rfl

theorem request_of_not_prepared {s : Submission} {f : Fault}
    (h : c.prepared s = .error f) : c.request s = .error f := by
  rw [request, h]
  rfl

/-- Without a URL there is nothing to disclose. -/
theorem discloses_of_not_prepared {s : Submission} {f : Fault}
    (h : c.prepared s = .error f) : c.discloses s = false := by
  rw [discloses, h]
  exact Bool.and_false _

/-- A fault in the making of the URL, if it is the same for all PINs. -/
theorem asks_of_not_prepared {u : Json} {f : Fault}
    (h : ∀ pin, pin.IsPin n → c.prepared ⟨u, .str pin⟩ = .error f) :
    Asks c u n :=
  .refused f fun pin hpin =>
    ⟨request_of_not_prepared (h pin hpin),
      discloses_of_not_prepared (h pin hpin)⟩

/-- An address of another kind is asked for as it is. -/
theorem asks_of_isForeign (u : Json) (n : Nat)
    (hforeign : Url.isForeign c.endpoint.trimLeft = true) : Asks c u n := by
  have hsilent (s : Submission) : c.discloses s = false := by
    rw [discloses, hforeign]
    rfl
  cases hlisted : c.listed with
  | error f =>
    exact asks_of_not_prepared fun _ _ => prepared_of_not_listed hlisted _
  | ok given =>
      have hurl (s : Submission) : c.prepared s
          = (Url.checkCredentials given c.endpoint.trimLeft).map
            fun _ => c.endpoint.trimLeft := by
        rw [prepared_of_listed hlisted, Url.prepare_of_isForeign hforeign]
      cases hcheck : Url.checkCredentials given c.endpoint.trimLeft with
      | error f =>
          refine asks_of_not_prepared (f := f) fun pin _ => ?_
          rw [hurl, hcheck]
          rfl
      | ok _ =>
          refine .refused (unserved c.endpoint.trimLeft) fun pin _ =>
            ⟨?_, hsilent _⟩
          have hok : c.prepared ⟨u, .str pin⟩ = .ok c.endpoint.trimLeft := by
            rw [hurl, hcheck]
            rfl
          rw [request_of_prepared hok, Url.isServed_of_isForeign hforeign,
            if_neg Bool.false_ne_true]

/-- Of an address that could be the web's, the scheme decides whether the
URL with the PIN goes out or is quoted. -/
theorem asks_of_not_isForeign (u : Json) (n : Nat)
    (hforeign : Url.isForeign c.endpoint.trimLeft = false) : Asks c u n := by
  cases hlisted : c.listed with
  | error f =>
    exact asks_of_not_prepared fun _ _ => prepared_of_not_listed hlisted _
  | ok given =>
      cases Url.inset_prepare (n := n) c.environment.names given u hforeign with
      | refused f hf =>
          refine asks_of_not_prepared (f := f) fun pin hpin => ?_
          rw [prepared_of_listed hlisted]
          exact hf pin hpin
      | inset before after hquery hinset =>
          have hmade {pin : Text} (hpin : pin.IsPin n) :
              c.request ⟨u, .str pin⟩
                  = (if Url.isServed before
                    then .ok ⟨before ++ (pin ++ after), c.timeout⟩
                    else .error (unserved (before ++ (pin ++ after))))
                ∧ c.discloses ⟨u, .str pin⟩ = !Url.isServed before := by
            have hurl : c.prepared ⟨u, .str pin⟩
                = .ok (before ++ (pin ++ after)) := by
              rw [prepared_of_listed hlisted]
              exact hinset pin hpin
            rw [request_of_prepared hurl, discloses, hforeign, hurl,
              ← Url.isServed_append hquery]
            exact ⟨rfl, rfl⟩
          cases hbefore : Url.isServed before with
          | true =>
              refine .sent before after fun pin hpin => ?_
              obtain ⟨hrequest, hsilent⟩ := hmade hpin
              rw [hrequest, hsilent, hbefore]
              exact ⟨rfl, rfl⟩
          | false =>
              obtain ⟨l, r, hquoted⟩ := Text.quoted_inset n before after
              refine .disclosed
                ("No connection adapters were found for " ++ l) r
                fun pin hpin => ?_
              obtain ⟨hrequest, htold⟩ := hmade hpin
              rw [hrequest, htold, hbefore, unserved, hquoted pin hpin]
              refine ⟨?_, rfl⟩
              rw [if_neg Bool.false_ne_true, List.append_assoc]

/-- Every client asks in one of the three ways. -/
theorem asks (c : Client) (u : Json) (n : Nat) : Asks c u n := by
  cases hforeign : Url.isForeign c.endpoint.trimLeft with
  | true => exact asks_of_isForeign u n hforeign
  | false => exact asks_of_not_isForeign u n hforeign

/-- Whether a client discloses a PIN is the same for all of one length. -/
theorem discloses_congr (c : Client) (u : Json) {pin pin' : Text}
    (h : pin.IsPin n) (h' : pin'.IsPin n) :
    c.discloses ⟨u, .str pin⟩ = c.discloses ⟨u, .str pin'⟩ := by
  cases asks c u n with
  | refused f hall => rw [(hall pin h).2, (hall pin' h').2]
  | sent before after hall => rw [(hall pin h).2, (hall pin' h').2]
  | disclosed l r hall => rw [(hall pin h).2, (hall pin' h').2]

/-- The client of a web address discloses nothing. -/
theorem discloses_of_isServed (h : Url.isServed c.endpoint.trimLeft = true)
    (s : Submission) : c.discloses s = false := by
  cases hprepared : c.prepared s with
  | error f => exact discloses_of_not_prepared hprepared
  | ok url =>
      have hserved : Url.isServed url = true := by
        obtain ⟨given, -, hprepared⟩ := bind_eq_ok.mp hprepared
        exact Url.isServed_prepare h hprepared
      rw [discloses, hprepared]
      dsimp only
      rw [hserved, Bool.not_true, Bool.and_false]

-- ============================================================== beginnings

/-- How a submission begins on behalf of a device, whatever the PIN: it is
over at once, with the same lines; it waits; or it is over and the line
printed holds the PIN. -/
inductive Starts (c : Client) (u : Json) (n : Nat) (now : Int) : Prop
  | done (result : Except Fault Outcome) (log : List Text)
      (h : ∀ pin, pin.IsPin n →
        c.start now ⟨u, .str pin⟩ = ⟨.done result, log⟩
          ∧ c.discloses ⟨u, .str pin⟩ = false)
  | waiting (h : ∀ pin, pin.IsPin n →
        (∃ request, c.start now ⟨u, .str pin⟩ = ⟨.waiting request now, []⟩)
          ∧ c.discloses ⟨u, .str pin⟩ = false)
  | told (result : Except Fault Outcome) (l r : Text)
      (h : ∀ pin, pin.IsPin n →
        c.start now ⟨u, .str pin⟩ = ⟨.done result, [l ++ (pin ++ r)]⟩
          ∧ c.discloses ⟨u, .str pin⟩ = true)

theorem starts (c : Client) (u : Json) (n : Nat) (now : Int) :
    Starts c u n now := by
  cases asks c u n with
  | refused f h =>
      refine .done (c.finishFault now now f).value (c.finishFault now now f).log
        fun pin hpin => ?_
      obtain ⟨hrequest, hsilent⟩ := h pin hpin
      exact ⟨by rw [start, hrequest], hsilent⟩
  | sent before after h =>
      refine .waiting fun pin hpin => ?_
      obtain ⟨hrequest, hsilent⟩ := h pin hpin
      exact ⟨⟨_, by rw [start, hrequest]⟩, hsilent⟩
  | disclosed l r h =>
      refine .told (outcome .failure none "connection error" now now)
        ("[Pairing] Request failed: " ++ l) r fun pin hpin => ?_
      obtain ⟨hrequest, htold⟩ := h pin hpin
      refine ⟨?_, htold⟩
      rw [start, hrequest, List.append_assoc]
      rfl

end Client

end DevicePairing
