/-
The page and the cells that the server takes.

The page is a fixed text around lines that differ in a number alone. What
occurs in it is found piece by piece: between the pieces are line feeds
and digits, so a pattern without them occurs in the page where it occurs
in a piece, and in the pieces of fixed text it can be looked for by
computation (`IsFixed`). What comes of it is one place for each cell.

The numbers that the page gives to its cells are those that the server
takes as an index, whatever it has served before and whatever it is
waiting for, since its pad has the same cells throughout.
-/
import DevicePairing.Proofs.Json.Ascii
import DevicePairing.Proofs.Json.Objects
import DevicePairing.Proofs.Text.Occurrences
import DevicePairing.Proofs.Text.Utf8
import DevicePairing.Proofs.Web.Events

namespace DevicePairing.Web

open Text (behind)

-- =========================================================== fixed text

/-- Strings, and the characters that each is made of. -/
inductive Spelled : List String → List (List Char) → Prop
  | nil : Spelled [] []
  | cons {cs : List Char} {ls : List String} {css : List (List Char)} :
      Spelled ls css → Spelled (String.ofList cs :: ls) (cs :: css)

/-- Lines by their characters. To take a long string apart is slow, to spell
it is not. -/
theorem lines_eq {ls : List String} {css : List (List Char)}
    (h : Spelled ls css) :
    lines ls = Text.join "\n" (css.map fun cs => cs.map .char) := by
  rw [lines]
  congr 1
  induction h with
  | nil => rfl
  | cons _ ih =>
    rw [List.map_cons, List.map_cons, ih, Text.ofString, String.toList_ofList]

/-- What is looked for in the page. -/
def patterns : List Text := [placeholder, "class=\"cell\"", "<input"]

/-- Nothing of it is found in front of the cells. -/
theorem searched_pageHead :
    (∃ head, pageHead = head ++ [.char '\n']) ∧ CodePoint.char '_' ∉ pageHead
      ∧ ∀ pat ∈ patterns, behind pat pageHead = [] := by
  have hspelled : pageHead = _ := lines_eq (by
    dsimp only
    repeat constructor)
  rw [hspelled]
  have hlast : ∀ t : Text, t.getLast? = some (.char '\n') →
      ∃ head, t = head ++ [.char '\n'] :=
    fun t h => ⟨t.dropLast, (List.dropLast_append_getLast? _ h).symm⟩
  exact ⟨hlast _ (by decide +kernel), by decide +kernel, by decide +kernel⟩

/-- Nor is it found behind them. -/
theorem searched_pageTail :
    (∃ tail, pageTail = .char '\n' :: tail)
      ∧ ∀ pat ∈ patterns, behind pat pageTail = [] := by
  have hspelled : pageTail = _ := lines_eq (by
    dsimp only
    repeat constructor)
  rw [hspelled]
  exact ⟨⟨_, rfl⟩, by decide +kernel⟩

-- ================================================================ pieces

/-- A pattern that is found within the pieces of the page: it has no line
feed and no digit, and it occurs nowhere but in the front of a cell. -/
structure IsFixed (pat : Text) : Prop where
  nonempty : pat ≠ []
  plain : ∀ p ∈ pat, p ≠ .char '\n' ∧ p.isDigit = false
  head : behind pat pageHead = []
  back : behind pat cellBack = []
  tail : behind pat pageTail = []

theorem isFixed_patterns : ∀ pat ∈ patterns, IsFixed pat := by
  have hplain : ∀ pat ∈ patterns, pat ≠ []
      ∧ (∀ p ∈ pat, p ≠ .char '\n' ∧ p.isDigit = false)
      ∧ behind pat cellBack = [] := by decide +kernel
  intro pat hpat
  obtain ⟨hne, hplain, hback⟩ := hplain pat hpat
  exact ⟨hne, hplain, searched_pageHead.2.2 pat hpat, hback,
    searched_pageTail.2 pat hpat⟩

variable {pat : Text}

theorem IsFixed.feed_not_mem (h : IsFixed pat) : CodePoint.char '\n' ∉ pat :=
  fun hfeed => (h.plain _ hfeed).1 rfl

theorem IsFixed.ofNat_apart (h : IsFixed pat) (i : Nat) :
    ∀ c ∈ Text.ofNat i, c ∉ pat := by
  intro c hc hpat
  obtain ⟨d, hd, rfl⟩ := List.mem_map.mp hc
  have hdigit : (CodePoint.char d).isDigit = true :=
    Numeral.areDigits_toDigits i d hd
  exact Bool.false_ne_true ((h.plain _ hpat).2.symm.trans hdigit)

theorem ofNat_ne_nil (i : Nat) : Text.ofNat i ≠ [] := by
  obtain ⟨d, ds, hdigits, -⟩ :=
    Json.Reader.isWhole_cons (Numeral.isWhole_toDigits i)
  rw [Text.ofNat, hdigits]
  exact List.cons_ne_nil _ _

/-- In the line of a cell a fixed pattern occurs where it does in front of
the index. -/
theorem IsFixed.behind_line (h : IsFixed pat) (i : Nat) (t : Text) :
    ∃ rest, Text.ofNat i ++ cellBack <+: rest
      ∧ behind pat (cellElement i ++ .char '\n' :: t)
        = (behind pat cellFront).map (· ++ rest) ++ behind pat t := by
  refine ⟨Text.ofNat i ++ (cellBack ++ .char '\n' :: t), ?_, ?_⟩
  · rw [← List.append_assoc]
    exact List.prefix_append _ _
  · rw [cellElement, List.append_assoc, List.append_assoc,
      Text.behind_append_apart h.nonempty (ofNat_ne_nil i) (h.ofNat_apart i),
      Text.behind_append_cons h.feed_not_mem, h.back]
    rfl

/-- So it is in the lines of some cells, which are found in their order. -/
theorem IsFixed.behind_lines (h : IsFixed pat) (t : Text) : ∀ is : List Nat,
    ∃ rests,
      List.Forall₂ (fun i rest => Text.ofNat i ++ cellBack <+: rest) is rests
      ∧ behind pat (Text.join "\n" (is.map cellElement) ++ .char '\n' :: t)
        = (rests.flatMap fun rest => (behind pat cellFront).map (· ++ rest))
          ++ behind pat t
  | [] => by
      refine ⟨[], .nil, ?_⟩
      show behind pat ([] ++ .char '\n' :: t) = behind pat t
      rw [Text.behind_append_cons h.feed_not_mem, Text.behind_nil h.nonempty]
      rfl
  | [i] => by
      obtain ⟨rest, hrest, heq⟩ := h.behind_line i t
      refine ⟨[rest], .cons hrest .nil, ?_⟩
      rw [List.flatMap_singleton]
      exact heq
  | i :: j :: is => by
      obtain ⟨rests, hrests, heq⟩ := h.behind_lines t (j :: is)
      obtain ⟨rest, hrest, hline⟩ := h.behind_line i
        (Text.join "\n" ((j :: is).map cellElement) ++ .char '\n' :: t)
      refine ⟨rest :: rests, .cons hrest hrests, ?_⟩
      rw [List.flatMap_cons, List.append_assoc, ← heq, ← hline]
      show behind pat (cellElement i ++ Text.ofString "\n" ++ _ ++ _) = _
      rw [List.append_assoc, List.append_assoc]
      rfl

-- ================================================================== page

/-- The placeholder makes way for the cells, and for nothing else. -/
theorem page_eq (n : Nat) :
    page n = pageHead ++ cellElements n ++ pageTail := by
  have htail : behind placeholder pageTail = [] :=
    searched_pageTail.2 _ List.mem_cons_self
  exact Text.replace_of_once searched_pageHead.2.1 htail

theorem IsFixed.behind_page (h : IsFixed pat) (n : Nat) :
    ∃ rests, List.Forall₂ (fun i rest => Text.ofNat i ++ cellBack <+: rest)
        (List.range n) rests
      ∧ behind pat (page n)
        = rests.flatMap fun rest => (behind pat cellFront).map (· ++ rest) := by
  obtain ⟨⟨head, hhead⟩, -⟩ := searched_pageHead
  obtain ⟨⟨tail, htail⟩, -⟩ := searched_pageTail
  have hnohead := h.head
  have hnotail := h.tail
  rw [hhead, Text.behind_append_cons h.feed_not_mem, List.append_eq_nil_iff,
    List.map_eq_nil_iff] at hnohead
  rw [htail, ← List.nil_append (_ :: tail), Text.behind_append_cons
    h.feed_not_mem,
    List.append_eq_nil_iff] at hnotail
  obtain ⟨rests, hrests, heq⟩ := h.behind_lines tail (List.range n)
  refine ⟨rests, hrests, ?_⟩
  rw [page_eq, hhead, htail, List.append_assoc, List.append_assoc,
    List.cons_append, List.nil_append, Text.behind_append_cons h.feed_not_mem,
    hnohead.1]
  show behind pat (cellElements n ++ .char '\n' :: tail) = _
  rw [cellElements, heq, hnotail.2, List.append_nil]

/-- A pattern that the front of a cell does not have is not in the page. -/
theorem IsFixed.absent (h : IsFixed pat) (hfront : behind pat cellFront = [])
    (n : Nat) : ¬pat <:+: page n := by
  obtain ⟨rests, -, heq⟩ := h.behind_page n
  rw [Text.not_isInfix_iff, heq, hfront]
  exact List.flatMap_eq_nil_iff.mpr fun _ _ => rfl

/-- One that the front has once is there once for each cell, and the index is
as far behind it as in the front. -/
theorem IsFixed.places (h : IsFixed pat) {mid : Text}
    (hfront : behind pat cellFront = [mid]) (n : Nat) :
    List.Forall₂ (fun i rest => mid ++ Text.ofNat i ++ "\"" <+: rest)
      (List.range n) (behind pat (page n)) := by
  obtain ⟨rests, hrests, heq⟩ := h.behind_page n
  have hmap : behind pat (page n) = rests.map (mid ++ ·) := by
    rw [heq, hfront, List.map_eq_flatMap]
    rfl
  have hquote : Text.ofString "\"" <+: cellBack :=
    ⟨cellBack.drop 1, by decide +kernel⟩
  rw [hmap, List.forall₂_map_right_iff]
  refine hrests.imp fun i rest hrest => ?_
  show mid ++ Text.ofNat i ++ Text.ofString "\"" <+: mid ++ rest
  rw [List.append_assoc, List.prefix_append_right_inj]
  exact ((List.prefix_append_right_inj _).mpr hquote).trans hrest

-- =============================================================== answers

namespace Incoming

/-- Whether the body of a request is an object with this `index`. -/
def Names (r : Incoming) (k : Int) : Prop :=
  ∃ fields, r.document? = .ok (some (.obj fields))
    ∧ Json.lookup "index" fields = some (.int k)

/-- A request that sends an index and nothing else. -/
def naming (path : Text) (k : Int) : Incoming where
  method := "POST"
  path
  query := []
  body := Text.utf8 ((Json.obj [("index", .int k)]).write .line)

variable {r : Incoming} {k : Int}

/-- Where a request goes is a matter of its method and its path. -/
theorem target_eq {method path : Text} (hmethod : r.method = method)
    (hpath : r.path = path) (pairing : Bool) :
    r.target pairing = (⟨method, path, [], []⟩ : Incoming).target pairing := by
  subst hmethod
  subst hpath
  rfl

theorem document?_of_read {t : Text} {v : Json}
    (htext : documentText? r.body = some t)
    (hread : Json.read documentDepth t = .ok v) :
    r.document? = .ok (some v) := by
  unfold document?
  rw [htext]
  dsimp only
  rw [hread]

/-- The text of a body that is sent for an index. -/
theorem documentText?_line (k : Int) :
    let sent : Text := (Json.obj [("index", .int k)]).write .line
    documentText? sent.utf8 = some sent := by
  intro sent
  have hscalar : sent.IsScalar :=
    (Json.isPrintableAscii_write Json.isPrintableAscii_line _).isScalar
  have hdetect : Encoding.detect sent.utf8 = (.utf8, sent.utf8) := rfl
  rw [documentText?, hdetect]
  dsimp only
  rw [Encoding.decode, decodeUtf8_utf8 hscalar]
  rfl

/-- An index that can be written is read. -/
theorem names_naming (path : Text) (hk : (Json.int k).isWritable = true) :
    (naming path k).Names k := by
  let sent : Text := (Json.obj [("index", .int k)]).write .line
  have hflat : ∀ f ∈ [(Text.ofString "index", Json.int k)], f.2.IsFlat :=
    List.forall_mem_singleton.mpr
      (.int (by unfold Json.isWritable at hk; exact hk))
  have hgap : ([] : Text).all Json.Reader.isGap = true := rfl
  obtain ⟨fields, hecho, hread⟩ := Json.read_obj
    (by decide : documentDepth ≠ 0) (List.cons_ne_nil _ _) hflat
    (List.pairwise_singleton _ _) hgap hgap
  change Json.read documentDepth (sent ++ []) = _ at hread
  rw [List.append_nil] at hread
  cases hecho with
  | @cons _ f _ _ hf hnil =>
    cases hnil
    obtain ⟨name, v⟩ := f
    obtain ⟨rfl, hv⟩ := hf
    cases hv
    exact ⟨_, document?_of_read (documentText?_line k) hread, rfl⟩

/-- An index that is too long to be written is not read: the body counts as
none. -/
theorem unread_naming (path : Text) (hk : (Json.int k).isWritable = false) :
    (naming path k).document? = .ok none := by
  let sent : Text := (Json.obj [("index", .int k)]).write .line
  unfold document?
  rw [show (naming path k).body = sent.utf8 from rfl, documentText?_line]
  dsimp only
  rw [Json.read_obj_long (by decide : documentDepth ≠ 0) _
    (by unfold Json.isWritable at hk; exact hk)]

/-- A body that is not read names no cell. -/
theorem cell?_of_unread (h : r.document? = .ok none) (n : Nat) :
    r.cell? n = none := by
  rw [Incoming.cell?, h]
  rfl

/-- It names a cell exactly if it is below the number of cells. -/
theorem Names.cell? (h : r.Names k) (n : Nat) :
    r.cell? n ≠ none ↔ 0 ≤ k ∧ k < n := by
  obtain ⟨fields, hdocument, hindex⟩ := h
  rw [Incoming.cell?, hdocument]
  dsimp only
  rw [named?, hindex]
  dsimp only
  split
  · exact iff_of_true (Option.some_ne_none _) ‹_›
  · exact iff_of_false (fun h => h rfl) ‹_›

end Incoming

/-- What a server of `n` cells answers about them: the page for `n` cells, and
whether an index is one of theirs. A body that is not read has none. -/
structure Agrees (n : Nat) (r : Incoming) (result : Except Fault Response) :
    Prop where
  page : r.method = "GET" → r.path = "/" → result = .ok (.page (page n))
  index : r.method = "POST" → r.path = "/api/cell" ∨ r.path = "/api/focus" →
    ∀ k, r.Names k → ∃ response, result = .ok response
      ∧ (response.status = 200 ∧ (∃ i ∈ List.range n, k = i)
        ∨ response.status = 400 ∧ ∀ i ∈ List.range n, k ≠ i)
  unread : r.method = "POST" → r.path = "/api/cell" ∨ r.path = "/api/focus" →
    r.document? = .ok none → ∃ response, result = .ok response
      ∧ response.status = 400

namespace Site

variable {s : Site} {r : Incoming}

theorem start_page (hmethod : r.method = "GET") (hpath : r.path = "/")
    (now : Int) :
    start now r s
      = (⟨.done (.ok (.page (page s.pad.cellCount))), []⟩, s) := by
  have htargets : ∀ pairing : Bool,
      (⟨"GET", "/", [], []⟩ : Incoming).target pairing = .route .page := by
    decide +kernel
  have htarget : r.target s.waiting.isSome = .route .page :=
    (Incoming.target_eq hmethod hpath _).trans (htargets _)
  have hbody : r.wantsNoBody = false := by
    rw [Incoming.wantsNoBody, hmethod]
    decide
  simp only [start, htarget, serve, shield, hbody, Bool.false_eq_true, if_false]

/-- Where a request about a cell goes. -/
theorem target_index (hmethod : r.method = "POST")
    (hpath : r.path = "/api/cell" ∨ r.path = "/api/focus") (pairing : Bool) :
    ∃ route, (route = .cell ∨ route = .focus)
      ∧ r.target pairing = .route route := by
  have htargets : ∀ pairing : Bool,
      (⟨"POST", "/api/cell", [], []⟩ : Incoming).target pairing = .route .cell
        ∧ (⟨"POST", "/api/focus", [], []⟩ : Incoming).target pairing
          = .route .focus := by decide +kernel
  obtain ⟨hcell, hfocus⟩ := htargets pairing
  rcases hpath with hpath | hpath
  · exact ⟨.cell, .inl rfl, (Incoming.target_eq hmethod hpath _).trans hcell⟩
  · exact ⟨.focus, .inr rfl, (Incoming.target_eq hmethod hpath _).trans hfocus⟩

/-- An index is taken exactly if it is below the number of cells. -/
theorem start_index (hmethod : r.method = "POST")
    (hpath : r.path = "/api/cell" ∨ r.path = "/api/focus") {k : Int}
    (hk : r.Names k) (now : Int) :
    ∃ response t, start now r s = (⟨.done (.ok response), []⟩, t)
      ∧ (response.status = 200 ∧ (∃ i ∈ List.range s.pad.cellCount, k = i)
        ∨ response.status = 400 ∧ ∀ i ∈ List.range s.pad.cellCount, k ≠ i) := by
  obtain ⟨route, hroute, htarget⟩ :=
    target_index hmethod hpath s.waiting.isSome
  obtain ⟨response, t, hstart, hserved⟩ := start_served htarget hroute now
  obtain ⟨h200, h400, -⟩ := hserved.status_iff
  rw [hk.cell?] at h200
  refine ⟨response, t, hstart, ?_⟩
  by_cases hrange : 0 ≤ k ∧ k < s.pad.cellCount
  · refine .inl ⟨h200.mpr hrange, k.toNat, List.mem_range.mpr (by omega), ?_⟩
    omega
  · have hnone : r.cell? s.pad.cellCount = none :=
      not_not.mp (mt (hk.cell? _).mp hrange)
    obtain ⟨fields, hdocument, -⟩ := hk
    refine .inr ⟨h400.mpr ⟨⟨_, hdocument⟩, hnone⟩, ?_⟩
    rintro i hi rfl
    exact hrange ⟨Int.natCast_nonneg i, by exact_mod_cast List.mem_range.mp hi⟩

/-- A body that is not read is refused. -/
theorem start_unread (hmethod : r.method = "POST")
    (hpath : r.path = "/api/cell" ∨ r.path = "/api/focus")
    (hunread : r.document? = .ok none) (now : Int) :
    ∃ response t, start now r s = (⟨.done (.ok response), []⟩, t)
      ∧ response.status = 400 := by
  obtain ⟨route, hroute, htarget⟩ :=
    target_index hmethod hpath s.waiting.isSome
  obtain ⟨response, t, hstart, hserved⟩ := start_served htarget hroute now
  obtain ⟨-, h400, -⟩ := hserved.status_iff
  exact ⟨response, t, hstart,
    h400.mpr ⟨⟨none, hunread⟩, Incoming.cell?_of_unread hunread _⟩⟩

/-- They are answered at once. -/
theorem agrees_of_start {opening : Opening Response Pad.Flight}
    {log : List Text} {t : Site} {now : Int}
    (h : start now r s = (⟨opening, log⟩, t)) (result : Except Fault Response)
    (hresult : ∀ result', opening = .done result' → result = result') :
    Agrees s.pad.cellCount r result where
  page hmethod hpath := by
    rw [start_page hmethod hpath] at h
    cases h
    exact hresult _ rfl
  index hmethod hpath k hk := by
    obtain ⟨response, t, hstart, hstatus⟩ :=
      start_index (s := s) hmethod hpath hk now
    rw [hstart] at h
    cases h
    exact ⟨response, hresult _ rfl, hstatus⟩
  unread hmethod hpath hunread := by
    obtain ⟨response, t, hstart, hstatus⟩ :=
      start_unread (s := s) hmethod hpath hunread now
    rw [hstart] at h
    cases h
    exact ⟨response, hresult _ rfl, hstatus⟩

theorem upholds_agrees (n : Nat) :
    service.Upholds (fun s => s.pad.cellCount = n) (Agrees n) where
  start now r s hs := (start_frame now r s).1.trans hs
  finish now flight ending s hs := by
    show (Site.finish now flight ending s).2.pad.cellCount = n
    rw [(finish_frame s now flight ending).1, (frame_finish _ _ _ _).1, hs]
  done hs hstart := by
    subst hs
    exact agrees_of_start hstart _ fun _ h => Opening.done.inj h
  waited hs hstart := by
    subst hs
    intro _ _ _ _
    exact agrees_of_start hstart _ fun _ h => nomatch h

end Site

-- ============================================================ agreement

/-- The page and the server agree on the cells. For `n` cells there are `n`
input elements in the page, the class of a cell occurs as often, and the
elements carry the numbers below `n` in their order; nothing is left of the
placeholder, and but for these elements the page is the same for every
number of cells. And whatever a server of `n` cells is asked, and whatever
it is waiting for, it answers with this page, and the indices that it takes
are the numbers that the page carries. An index is read up to the number of
digits that one may have; beyond, a body is not read and the request is
refused, whatever the number of cells. -/
theorem page_agrees_with_server (s : Site) (now : Int)
    (steps : List (Step Incoming)) :
    let n := s.pad.cellCount
    let answers := Step.allAnswered steps (Site.service.runSteps now s steps).1
    List.Forall₂
        (fun i rest => " data-index=\"" ++ Text.ofNat i ++ "\"" <+: rest)
        (List.range n) (behind "class=\"cell\"" (page n))
      ∧ List.Forall₂
        (fun i rest =>
          " class=\"cell\" data-index=\"" ++ Text.ofNat i ++ "\"" <+: rest)
        (List.range n) (behind "<input" (page n))
      ∧ ¬placeholder <:+: page n
      ∧ (∃ head front back tail : Text, ∀ m, page m
          = head ++ Text.join "\n" ((List.range m).map fun i =>
            front ++ Text.ofNat i ++ back) ++ tail)
      ∧ (∀ x ∈ answers, Agrees n x.1 x.2.result)
      ∧ (∀ path k, (Json.int k).isWritable = true →
          (Incoming.naming path k).Names k)
      ∧ ∀ path k, (Json.int k).isWritable = false →
          (Incoming.naming path k).document? = .ok none := by
  intro n answers
  have hfixed := isFixed_patterns
  simp only [patterns, List.forall_mem_cons] at hfixed
  obtain ⟨hplaceholder, hclass, hinput, -⟩ := hfixed
  refine ⟨hclass.places (by decide +kernel) n,
    hinput.places (by decide +kernel) n,
    hplaceholder.absent (by decide +kernel) n, ?_, ?_, ?_, ?_⟩
  · exact ⟨pageHead, cellFront, cellBack, pageTail, page_eq⟩
  · exact ((Site.upholds_agrees n).runSteps now rfl steps).1
  · exact fun path k hk => Incoming.names_naming path hk
  · exact fun path k hk => Incoming.unread_naming path hk

end DevicePairing.Web
