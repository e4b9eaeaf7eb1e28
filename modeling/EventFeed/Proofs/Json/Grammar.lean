import EventFeed.Proofs.Json.Entries
import Mathlib.Data.Set.List

/-!
# EventFeed.Proofs.Json.Grammar

Whatever is read is written in a tree.  If a reader accepts a text, the tokens of
some tree stand in it, as far as the reader went: for values
(`exists_tree_of_readValue`), for values that are passed over
(`exists_tree_of_skipValue`), where a stack of open containers says which tokens
are still due (`Due.Leaves`), and for records (`exists_tree_of_read`).
-/

namespace EventFeed

namespace Json

open Written (token quote)

/-! ## Tokens in front of a rest -/

/-- The tokens stand in the input in front of the rest. -/
structure Before (ts : List Input) (input rest : Input) : Prop where
  spaced {more : List Input} : Spaced more rest → Spaced (ts ++ more) input

/-- White space may stand in front of tokens. -/
theorem Spaced.behind {blank : Input} (hblank : ∀ s ∈ blank, isSpace s = true) {ts : List Input}
    {input : Input} (h : Spaced ts input) : Spaced ts (blank ++ input) := by
  have hwhite {blank' : Input} (hblank' : ∀ s ∈ blank', isSpace s = true) :
      ∀ s ∈ blank ++ blank', isSpace s = true := List.forall_mem_append.2 ⟨hblank, hblank'⟩
  cases h with
  | done white => exact .done (hwhite white)
  | next white t hrest =>
    rw [← List.append_assoc]
    exact .next (hwhite white) t hrest

theorem Spaced.of_skipSpace {ts : List Input} {input : Input} (h : Spaced ts (skipSpace input)) :
    Spaced ts input := by
  have hblank : ∀ s ∈ input.takeWhile isSpace, isSpace s = true :=
    List.all_eq_true.1 List.all_takeWhile
  rw [← List.takeWhile_append_dropWhile (p := isSpace) (l := input)]
  exact h.behind hblank

namespace Before

variable {ts us : List Input} {input mid rest : Input}

theorem skip (input : Input) : Before [] input (skipSpace input) := ⟨Spaced.of_skipSpace⟩

theorem trans (h : Before ts input mid) (h' : Before us mid rest) :
    Before (ts ++ us) input rest where
  spaced hmore := by
    rw [List.append_assoc]
    exact h.spaced (h'.spaced hmore)

/-- A token that stands where the white space ends. -/
theorem of_token {t : Input} (h : skipSpace input = t ++ rest) : Before [t] input rest where
  spaced hmore := by
    refine Spaced.of_skipSpace ?_
    rw [h]
    exact hmore.cons t

theorem of_skipSpace (h : Before ts (skipSpace input) rest) : Before ts input rest :=
  ⟨fun hmore => (h.spaced hmore).of_skipSpace⟩

end Before

/-! ## Steps -/

theorem eq_of_readWord {cs : List Char} {input rest : Input} (h : readWord cs input = .ok rest) :
    input = token cs ++ rest := by
  induction cs generalizing input with
  | nil => exact Except.ok.inj h
  | cons c cs ih =>
    cases input with
    | nil => cases h
    | cons s input =>
      rw [readWord] at h
      split at h
      · next hs => rw [hs, ih h]; rfl
      · cases h

theorem skipSpace_of_readColon {input rest : Input} (h : readColon input = .ok rest) :
    skipSpace input = token [':'] ++ rest := by
  rw [readColon] at h
  split at h
  · next hskip => rw [hskip, Except.ok.inj h]; rfl
  · cases h
  · cases h

theorem skipSpace_of_closeList {input rest : Input} (h : closeList input = .ok rest) :
    skipSpace input = token [']'] ++ rest := by
  rw [closeList] at h
  split at h
  · cases h
  · next hskip => rw [hskip, Except.ok.inj h]; rfl
  · split at h <;> cases h
  · cases h

theorem skipSpace_of_closeObject {input rest : Input} (h : closeObject input = .ok rest) :
    skipSpace input = token ['}'] ++ rest := by
  rw [closeObject] at h
  split at h
  · cases h
  · next hskip => rw [hskip, Except.ok.inj h]; rfl
  · cases h
  · cases h

/-- What stands in front of a part: a comma, unless it is the first one. -/
def separator (first : Bool) : List Input := if first then [] else [token [',']]

theorem before_of_nextItem {first : Bool} {input next : Input}
    (h : nextItem first input = .ok (some next)) : Before (separator first) input next := by
  rw [nextItem] at h
  split at h
  · cases h
  · cases h
  · next behind hskip =>
    cases first with
    | true =>
      cases h
      rw [← hskip]
      exact .skip input
    | false =>
      rw [if_neg Bool.false_ne_true] at h
      split at h
      · cases h
      · cases h
      · cases h
        exact (Before.of_token hskip).trans (.skip behind)
  · cases first with
    | true =>
      cases h
      exact .skip input
    | false => cases h

/-- What stands behind the opening quote of a name. -/
theorem before_of_nextMember {first : Bool} {input next : Input}
    (h : nextMember first input = .ok (some next)) :
    Before (separator first) input (.char '"' :: next) := by
  rw [nextMember] at h
  split at h
  · cases h
  · cases h
  · next behind hcomma =>
    cases first with
    | true => cases h
    | false =>
      rw [if_neg Bool.false_ne_true] at h
      split at h
      · cases h
      · next hskip =>
        cases h
        rw [← hskip]
        exact (Before.of_token hcomma).trans (.skip behind)
      · cases h
      · cases h
  · next hskip =>
    cases first with
    | true =>
      cases h
      rw [← hskip]
      exact .skip input
    | false => cases h
  · cases h

/-! ## Atoms -/

/-- The token of a value without parts. -/
def IsAtom (t : Input) : Prop := ∃ w : Written, w.tokens = [t]

theorem isAtom_quote (k : List Piece) : IsAtom (quote k) := ⟨.string k, rfl⟩

/-- What is read as a literal is a number. -/
theorem exists_atom_of_readLiteral {negative : Bool} {l : Literal} {input rest : Input}
    (h : readLiteral negative input = .ok (l, rest)) :
    (∃ t, IsAtom t ∧ input = t ++ rest) ∧
      ∃ t, IsAtom t ∧ .char '-' :: input = t ++ rest := by
  obtain ⟨f, hf, hinput⟩ := exists_figures_of_readLiteral h false
  obtain ⟨f', hf', hinput'⟩ := exists_figures_of_readLiteral h true
  refine ⟨⟨token f.chars, ⟨.number f, rfl⟩, ?_⟩, ⟨token f'.chars, ⟨.number f', rfl⟩, ?_⟩⟩
  · rw [Figures.chars, hf]
    exact hinput
  · rw [Figures.chars, hf']
    exact congrArg (Symbol.char '-' :: ·) hinput'

theorem exists_atom_of_word {w : Written} {c : Char} {cs : List Char} {input rest : Input}
    (hw : w.tokens = [token (c :: cs)]) (h : readWord cs input = .ok rest) :
    ∃ t, IsAtom t ∧ .char c :: input = t ++ rest :=
  ⟨_, ⟨w, hw⟩, congrArg (Symbol.char c :: ·) (eq_of_readWord h)⟩

theorem exists_literal_of_readNumber {negative : Bool} {n : Number} {input rest : Input}
    (h : readNumber negative input = .ok (n, rest)) :
    ∃ l, readLiteral negative input = .ok (l, rest) := by
  rw [readNumber] at h
  obtain ⟨⟨l, _⟩, hliteral, h⟩ := bind_eq_ok_iff.1 h
  dsimp only at h
  split at h
  · cases h
    exact ⟨l, hliteral⟩
  · cases h

/-- What is read as an atom is the token of one. -/
theorem exists_atom_of_readAtom {a : Atom} {input rest : Input}
    (h : readAtom input = .ok (a, rest)) : ∃ t, IsAtom t ∧ input = t ++ rest := by
  rw [readAtom.eq_def] at h
  split at h
  · cases h
  · obtain ⟨_, hword, h⟩ := map_eq_ok_iff.1 h
    cases h
    exact exists_atom_of_word (w := .null) rfl hword
  · obtain ⟨_, hword, h⟩ := map_eq_ok_iff.1 h
    cases h
    exact exists_atom_of_word (w := .bool true) rfl hword
  · obtain ⟨_, hword, h⟩ := map_eq_ok_iff.1 h
    cases h
    exact exists_atom_of_word (w := .bool false) rfl hword
  · obtain ⟨⟨s, _⟩, hstring, h⟩ := map_eq_ok_iff.1 h
    cases h
    obtain ⟨ps, rfl⟩ := exists_pieces_of_readStringFrom hstring
    exact ⟨quote ps, isAtom_quote ps, rfl⟩
  · obtain ⟨⟨n, _⟩, hnumber, h⟩ := map_eq_ok_iff.1 h
    cases h
    obtain ⟨l, hliteral⟩ := exists_literal_of_readNumber hnumber
    exact (exists_atom_of_readLiteral hliteral).2
  · split at h
    · obtain ⟨⟨n, _⟩, hnumber, h⟩ := map_eq_ok_iff.1 h
      cases h
      obtain ⟨l, hliteral⟩ := exists_literal_of_readNumber hnumber
      exact (exists_atom_of_readLiteral hliteral).1
    · cases h

/-- So is what is passed over as one. -/
theorem exists_atom_of_skipAtom {input rest : Input} (h : skipAtom input = .ok rest) :
    ∃ t, IsAtom t ∧ input = t ++ rest := by
  have hnumber {input : Input} (h : skipNumber input = .ok rest) :
      ∃ l, readLiteral false input = .ok (l, rest) := by
    rw [skipNumber] at h
    split at h
    · next l _ hliteral =>
      cases h
      exact ⟨l, hliteral⟩
    · cases h
  rw [skipAtom.eq_def] at h
  split at h
  · cases h
  · exact exists_atom_of_word (w := .null) rfl h
  · exact exists_atom_of_word (w := .bool true) rfl h
  · exact exists_atom_of_word (w := .bool false) rfl h
  · obtain ⟨ps, rfl⟩ := exists_pieces_of_skipString h
    exact ⟨quote ps, isAtom_quote ps, rfl⟩
  · obtain ⟨l, hliteral⟩ := hnumber h
    exact (exists_atom_of_readLiteral hliteral).2
  · split at h
    · obtain ⟨l, hliteral⟩ := hnumber h
      exact (exists_atom_of_readLiteral hliteral).1
    · cases h

theorem before_of_atom {input rest : Input} (h : ∃ t, IsAtom t ∧ skipSpace input = t ++ rest) :
    ∃ w : Written, Before w.tokens input rest := by
  obtain ⟨t, ⟨w, hw⟩, hskip⟩ := h
  refine ⟨w, ?_⟩
  rw [hw]
  exact .of_token hskip

/-! ## Values -/

/-- The tokens of parts, and of the end of their container. -/
def parts (first : Bool) (b : Bracket) (ps : List (List Input)) : List Input :=
  if first then allParts b ps else moreParts b ps

theorem parts_cons (first : Bool) (b : Bracket) (p : List Input) (ps : List (List Input)) :
    parts first b (p :: ps) = separator first ++ (p ++ parts false b ps) := by
  cases first <;> rfl

theorem parts_nil (first : Bool) (b : Bracket) : parts first b [] = [token [b.closing]] := by
  cases first <;> rfl

/-- A member behind its opening quote. -/
theorem before_member {k : List Piece} {w : Written} {next behindName behindColon behind : Input}
    (hk : next = closed k ++ behindName) (hcolon : readColon behindName = .ok behindColon)
    (hw : Before w.tokens behindColon behind) :
    Before (memberTokens (k, w)) (.char '"' :: next) behind := by
  have hquote : skipSpace (.char '"' :: next) = quote k ++ behindName := by
    rw [skipSpace_of_starts (by decide), hk]
    rfl
  exact (Before.of_token hquote).trans
    ((Before.of_token (skipSpace_of_readColon hcolon)).trans hw)

theorem before_array {ws : List Written} {input mid rest : Input}
    (hskip : skipSpace input = .char '[' :: mid)
    (h : Before (parts true .list (ws.map Written.tokens)) mid rest) :
    Before (Written.array ws).tokens input rest := by
  rw [tokens_array]
  exact (Before.of_token hskip).trans h

theorem before_object {ws : List (List Piece × Written)} {input mid rest : Input}
    (hskip : skipSpace input = .char '{' :: mid)
    (h : Before (parts true .object (ws.map memberTokens)) mid rest) :
    Before (Written.object ws).tokens input rest := by
  rw [tokens_object]
  exact (Before.of_token hskip).trans h

section

variable {input rest : Input} {bound : Nat}

/-- The items that are read are trees. -/
theorem exists_items_of_readItems {item : Input → Read Json}
    (hitem : ∀ {input x rest}, item input = .ok (x, rest) →
      ∃ w : Written, Before w.tokens input rest)
    {index : Nat} {done xs : List Json}
    (h : readItems item bound index done input = .ok (xs, rest)) :
    ∃ ws : List Written, Before (parts (index == 0) .list (ws.map Written.tokens)) input rest := by
  induction bound generalizing index done input with
  | zero => cases h
  | succ bound ih =>
    rw [readItems] at h
    obtain ⟨next, hnext, h⟩ := bind_eq_ok_iff.1 h
    cases next with
    | none =>
      obtain ⟨_, hclose, h⟩ := bind_eq_ok_iff.1 h
      cases h
      refine ⟨[], ?_⟩
      rw [List.map_nil, parts_nil]
      exact .of_token (skipSpace_of_closeList hclose)
    | some next =>
      obtain ⟨⟨x, behind⟩, hx, h⟩ := bind_eq_ok_iff.1 h
      obtain ⟨w, hw⟩ := hitem (under_eq_ok_iff.1 hx)
      obtain ⟨ws, hws⟩ := ih h
      refine ⟨w :: ws, ?_⟩
      rw [List.map_cons, parts_cons]
      exact (before_of_nextItem hnext).trans (hw.trans hws)

/-- So are the values of the members that are read. -/
theorem exists_members_of_readMembers {value : Input → Read Json}
    (hvalue : ∀ {input x rest}, value input = .ok (x, rest) →
      ∃ w : Written, Before w.tokens input rest)
    {first : Bool} {done ms : List (String × Json)}
    (h : readMembers value bound first done input = .ok (ms, rest)) :
    ∃ ws : List (List Piece × Written),
      Before (parts first .object (ws.map memberTokens)) input rest := by
  induction bound generalizing first done input with
  | zero => cases h
  | succ bound ih =>
    rw [readMembers] at h
    obtain ⟨next, hnext, h⟩ := bind_eq_ok_iff.1 h
    cases next with
    | none =>
      obtain ⟨_, hclose, h⟩ := bind_eq_ok_iff.1 h
      cases h
      refine ⟨[], ?_⟩
      rw [List.map_nil, parts_nil]
      exact .of_token (skipSpace_of_closeObject hclose)
    | some next =>
      obtain ⟨⟨name, behindName⟩, hname, h⟩ := bind_eq_ok_iff.1 h
      obtain ⟨behindColon, hcolon, h⟩ := bind_eq_ok_iff.1 h
      obtain ⟨⟨x, behind⟩, hx, h⟩ := bind_eq_ok_iff.1 h
      obtain ⟨k, hk⟩ := exists_pieces_of_readStringFrom (under_eq_ok_iff.1 hname)
      obtain ⟨w, hw⟩ := hvalue (under_eq_ok_iff.1 hx)
      obtain ⟨ws, hws⟩ := ih h
      refine ⟨(k, w) :: ws, ?_⟩
      rw [List.map_cons, parts_cons]
      exact (before_of_nextMember (under_eq_ok_iff.1 hnext)).trans
        ((before_member hk hcolon hw).trans hws)

end

theorem exists_tree_of_readAtom {input rest : Input} {j : Json}
    (h : (readAtom (skipSpace input)).map (fun (a, rest) => (a.toJson, rest)) = .ok (j, rest)) :
    ∃ w : Written, Before w.tokens input rest := by
  obtain ⟨⟨a, _⟩, ha, h⟩ := map_eq_ok_iff.1 h
  cases h
  exact before_of_atom (exists_atom_of_readAtom ha)

/-- **What is read as a value is a tree.** -/
theorem exists_tree_of_readValue {bound depth : Nat} {input rest : Input} {j : Json}
    (h : readValue bound depth input = .ok (j, rest)) :
    ∃ w : Written, Before w.tokens input rest := by
  induction depth generalizing input j rest with
  | zero =>
    rw [readValue] at h
    split at h
    · cases h
    · cases h
    · exact exists_tree_of_readAtom h
  | succ depth ih =>
    rw [readValue] at h
    split at h
    · next hskip =>
      obtain ⟨⟨xs, _⟩, hxs, h⟩ := map_eq_ok_iff.1 h
      cases h
      obtain ⟨ws, hws⟩ := exists_items_of_readItems ih hxs
      exact ⟨.array ws, before_array hskip hws⟩
    · next hskip =>
      obtain ⟨⟨ms, _⟩, hms, h⟩ := map_eq_ok_iff.1 h
      cases h
      obtain ⟨ws, hws⟩ := exists_members_of_readMembers ih hms
      exact ⟨.object ws, before_object hskip hws⟩
    · exact exists_tree_of_readAtom h

/-! ## Values that are passed over -/

/-- Tokens that are a part of a container. -/
def IsPart : Bracket → List Input → Prop
  | .list, p => ∃ w : Written, p = w.tokens
  | .object, p => ∃ m : List Piece × Written, p = memberTokens m

/-- The parts that are left in the open containers stand in the input, and the end
of each. -/
def Closes : List Bracket → Input → Input → Prop
  | [], input, rest => input = rest
  | b :: opened, input, rest => ∃ ps, (∀ p ∈ ps, IsPart b p) ∧
    ∃ mid, Before (parts false b ps) input mid ∧ Closes opened mid rest

/-- What is due, and what is left in the open containers, stands in the input. -/
def Due.Leaves : Due → List Bracket → Input → Input → Prop
  | .value, opened, input, rest =>
    ∃ w : Written, ∃ mid, Before w.tokens input mid ∧ Closes opened mid rest
  | .part _, [], input, rest => input = rest
  | .part comma, b :: opened, input, rest => ∃ ps, (∀ p ∈ ps, IsPart b p) ∧
    ∃ mid, Before (parts (!comma) b ps) input mid ∧ Closes opened mid rest

theorem leaves_part_true {opened : List Bracket} {input rest : Input} :
    (Due.part true).Leaves opened input rest ↔ Closes opened input rest := by
  cases opened <;> rfl

theorem exists_eq_map {α β : Type} {f : α → β} {ys : List β} (h : ∀ y ∈ ys, ∃ x, y = f x) :
    ∃ xs : List α, ys = xs.map f := by
  have hrange : ys ∈ Set.range (List.map f) := by
    rw [Set.range_list_map]
    exact fun y hy => (h y hy).imp fun _ => Eq.symm
  exact hrange.imp fun _ => Eq.symm

/-- A container is a tree if its parts are. -/
theorem exists_tree_of_parts {b : Bracket} {ps : List (List Input)} (h : ∀ p ∈ ps, IsPart b p) :
    ∃ w : Written, w.tokens = token [b.opening] :: parts true b ps := by
  cases b with
  | list =>
    obtain ⟨ws, rfl⟩ : ∃ ws : List Written, ps = ws.map Written.tokens := exists_eq_map h
    exact ⟨.array ws, tokens_array ws⟩
  | object =>
    obtain ⟨ms, rfl⟩ : ∃ ms : List (List Piece × Written), ps = ms.map memberTokens :=
      exists_eq_map h
    exact ⟨.object ms, tokens_object ms⟩

/-- A value behind the name of a part is a part. -/
theorem exists_part_of_skipName {b : Bracket} {input behind rest : Input} {w : Written}
    (h : skipName b input = .ok behind) (hw : Before w.tokens behind rest) :
    ∃ p, IsPart b p ∧ Before p input rest := by
  cases b with
  | list =>
    cases h
    exact ⟨w.tokens, ⟨w, rfl⟩, hw⟩
  | object =>
    rw [skipName] at h
    split at h
    · cases h
    · next next hskip =>
      obtain ⟨behindName, hname, hcolon⟩ := bind_eq_ok_iff.1 h
      obtain ⟨k, hk⟩ := exists_pieces_of_skipString hname
      refine ⟨memberTokens (k, w), ⟨(k, w), rfl⟩, .of_skipSpace ?_⟩
      rw [hskip]
      exact before_member hk hcolon hw
    · cases h

/-- One part more in front of those that are left. -/
theorem closes_cons {b : Bracket} {opened : List Bracket} {first : Bool}
    {input mid next behind rest : Input} (hseparator : Before (separator first) input mid)
    (hname : skipName b mid = .ok next) {w : Written} (hw : Before w.tokens next behind)
    (hcloses : Closes (b :: opened) behind rest) :
    ∃ ps, (∀ p ∈ ps, IsPart b p) ∧
      ∃ left, Before (parts first b ps) input left ∧ Closes opened left rest := by
  obtain ⟨p, hp, hbefore⟩ := exists_part_of_skipName hname hw
  obtain ⟨ps, hps, left, hleft, hcloses⟩ := hcloses
  refine ⟨p :: ps, List.forall_mem_cons.2 ⟨hp, hps⟩, left, ?_, hcloses⟩
  rw [parts_cons]
  exact hseparator.trans (hbefore.trans hleft)

/-- **What is passed over is what is due.** -/
theorem leaves_of_skipOn {bound : Nat} {due : Due} {opened : List Bracket} {input rest : Input}
    (h : skipOn bound due opened input = .ok rest) : due.Leaves opened input rest := by
  fun_induction skipOn bound due opened input with
  | case1 => cases h
  | case2 bound opened input next hskip ih =>
    obtain ⟨ps, hps, mid, hmid, hcloses⟩ := ih h
    obtain ⟨w, hw⟩ := exists_tree_of_parts hps
    refine ⟨w, mid, ?_, hcloses⟩
    rw [hw]
    exact (Before.of_token hskip).trans hmid
  | case3 bound opened input next hskip ih =>
    obtain ⟨ps, hps, mid, hmid, hcloses⟩ := ih h
    obtain ⟨w, hw⟩ := exists_tree_of_parts hps
    refine ⟨w, mid, ?_, hcloses⟩
    rw [hw]
    exact (Before.of_token hskip).trans hmid
  | case4 bound opened input _ _ ih =>
    obtain ⟨mid, hatom, h⟩ := bind_eq_ok_iff.1 h
    obtain ⟨w, hw⟩ := before_of_atom (exists_atom_of_skipAtom hatom)
    exact ⟨w, mid, hw, leaves_part_true.1 (ih mid h)⟩
  | case5 => exact Except.ok.inj h
  | case6 => cases h
  | case7 bound comma b opened input s next hskip hcomma ih =>
    obtain ⟨rfl, rfl⟩ := hcomma
    obtain ⟨behind, hname, h⟩ := bind_eq_ok_iff.1 h
    obtain ⟨w, mid, hw, hcloses⟩ := ih behind h
    have hseparator : Before (separator false) input next := Before.of_token hskip
    exact closes_cons hseparator hname hw hcloses
  | case8 bound comma b opened input next hskip _ ih =>
    refine ⟨[], List.forall_mem_nil _, next, ?_, leaves_part_true.1 (ih h)⟩
    rw [parts_nil]
    exact .of_token hskip
  | case9 => cases h
  | case10 bound comma b opened input s next hskip _ _ hfirst ih =>
    obtain rfl : comma = false := by simpa using hfirst
    obtain ⟨behind, hname, h⟩ := bind_eq_ok_iff.1 h
    obtain ⟨w, mid, hw, hcloses⟩ := ih behind h
    rw [← hskip] at hname
    exact closes_cons (.skip input) hname hw hcloses

/-- **What is passed over as a value is a tree.** -/
theorem exists_tree_of_skipValue {bound : Nat} {input rest : Input}
    (h : skipValue bound input = .ok rest) : ∃ w : Written, Before w.tokens input rest := by
  obtain ⟨w, mid, hw, rfl⟩ := leaves_of_skipOn h
  exact ⟨w, hw⟩

/-! ## Records -/

section

variable {σ : Type} {r : Record σ} {bound depth : Nat} {input rest : Input}

/-- Whatever the field reads is a tree. -/
def Field.ReadsTrees (bound depth : Nat) (f : Field σ) : Prop :=
  ∀ {input rest : Input} {s t : σ}, f.read bound depth input s = .ok (t, rest) →
    ∃ w : Written, Before w.tokens input rest

/-- The value of a member is a tree, be it read or passed over. -/
theorem exists_tree_of_readField (hr : ∀ f ∈ r.fields, f.ReadsTrees bound depth) {name : String}
    {s t : σ} (h : r.readField bound depth name s input = .ok (t, rest)) :
    ∃ behind, readColon input = .ok behind ∧ ∃ w : Written, Before w.tokens behind rest := by
  rw [Record.readField] at h
  split at h
  · obtain ⟨behind, hcolon, h⟩ := bind_eq_ok_iff.1 h
    obtain ⟨_, hskip, h⟩ := bind_eq_ok_iff.1 h
    cases h
    exact ⟨behind, hcolon, exists_tree_of_skipValue (under_eq_ok_iff.1 hskip)⟩
  · next f hf =>
    split at h
    · cases h
    · obtain ⟨behind, hcolon, h⟩ := bind_eq_ok_iff.1 h
      exact ⟨behind, hcolon, hr f (List.mem_of_find?_eq_some hf) (under_eq_ok_iff.1 h)⟩

theorem exists_members_of_readFields (hr : ∀ f ∈ r.fields, f.ReadsTrees bound depth) {fuel : Nat}
    {first : Bool} {s t : σ} (h : r.readFields bound depth fuel first s input = .ok (t, rest)) :
    ∃ ws : List (List Piece × Written),
      Before (parts first .object (ws.map memberTokens)) input rest := by
  induction fuel generalizing first s input with
  | zero => cases h
  | succ fuel ih =>
    rw [Record.readFields] at h
    obtain ⟨next, hnext, h⟩ := bind_eq_ok_iff.1 h
    cases next with
    | none =>
      obtain ⟨_, hclose, h⟩ := bind_eq_ok_iff.1 h
      split at h
      · cases h
        refine ⟨[], ?_⟩
        rw [List.map_nil, parts_nil]
        exact .of_token (skipSpace_of_closeObject hclose)
      · cases h
    | some next =>
      obtain ⟨⟨name, behindName⟩, hname, h⟩ := bind_eq_ok_iff.1 h
      obtain ⟨⟨s', behind⟩, hfield, h⟩ := bind_eq_ok_iff.1 h
      obtain ⟨k, hk⟩ := exists_pieces_of_readStringFrom (under_eq_ok_iff.1 hname)
      obtain ⟨behindColon, hcolon, w, hw⟩ := exists_tree_of_readField hr hfield
      obtain ⟨ws, hws⟩ := ih h
      refine ⟨(k, w) :: ws, ?_⟩
      rw [List.map_cons, parts_cons]
      exact (before_of_nextMember (under_eq_ok_iff.1 hnext)).trans
        ((before_member hk hcolon hw).trans hws)

/-- At the end of a list nothing more is read. -/
theorem closeList_of_readInOrder {fs : List (Field σ)} {index : Nat} {s t : σ}
    (hclosed : ∀ first, nextItem first input = .ok none)
    (h : r.readInOrder bound depth fs index s input = .ok (t, rest)) :
    closeList input = .ok rest := by
  induction fs generalizing index s with
  | nil =>
    rw [Record.readInOrder] at h
    obtain ⟨_, hclose, h⟩ := bind_eq_ok_iff.1 h
    cases h
    exact hclose
  | cons f fs ih =>
    rw [Record.readInOrder, hclosed] at h
    simp only [bind, Except.bind] at h
    split at h
    · exact ih h
    · split at h <;> cases h

theorem nextItem_eq_none {first : Bool} (h : nextItem first input = .ok none) (first' : Bool) :
    nextItem first' input = .ok none := by
  rw [nextItem] at h
  split at h
  · cases h
  · next hskip =>
    rw [nextItem, hskip]
    rfl
  · split at h
    · cases h
    · split at h <;> cases h
  · split at h <;> cases h

/-- The items that are read off a list are trees. -/
theorem exists_items_of_readInOrder {fs : List (Field σ)}
    (hfs : ∀ f ∈ fs, f.ReadsTrees bound depth) {index : Nat} {s t : σ}
    (h : r.readInOrder bound depth fs index s input = .ok (t, rest)) :
    ∃ ws : List Written, Before (parts (index == 0) .list (ws.map Written.tokens)) input rest := by
  have hend {index : Nat} {input : Input} (hclose : closeList input = .ok rest) :
      ∃ ws : List Written,
        Before (parts (index == 0) .list (ws.map Written.tokens)) input rest := by
    refine ⟨[], ?_⟩
    rw [List.map_nil, parts_nil]
    exact .of_token (skipSpace_of_closeList hclose)
  induction fs generalizing index s input with
  | nil =>
    rw [Record.readInOrder] at h
    obtain ⟨_, hclose, h⟩ := bind_eq_ok_iff.1 h
    cases h
    exact hend hclose
  | cons f fs ih =>
    obtain ⟨hf, hfs⟩ := List.forall_mem_cons.1 hfs
    have hlist := h
    rw [Record.readInOrder] at h
    obtain ⟨next, hnext, h⟩ := bind_eq_ok_iff.1 h
    cases next with
    | none => exact hend (closeList_of_readInOrder (nextItem_eq_none hnext) hlist)
    | some next =>
      obtain ⟨⟨s', behind⟩, hread, h⟩ := bind_eq_ok_iff.1 h
      obtain ⟨w, hw⟩ := hf (under_eq_ok_iff.1 hread)
      obtain ⟨ws, hws⟩ := ih hfs h
      refine ⟨w :: ws, ?_⟩
      rw [List.map_cons, parts_cons]
      exact (before_of_nextItem hnext).trans (hw.trans hws)

/-- **What is read as a record is a tree**, if what its fields read is. -/
theorem exists_tree_of_read {empty t : σ} (hr : ∀ depth, ∀ f ∈ r.fields, f.ReadsTrees bound depth)
    (h : r.read empty bound depth input = .ok (t, rest)) :
    ∃ w : Written, Before w.tokens input rest := by
  rw [Record.read] at h
  split at h
  · cases h
  · next hskip =>
    split at h
    · cases h
    · obtain ⟨ws, hws⟩ := exists_items_of_readInOrder (hr _) h
      exact ⟨.array ws, before_array hskip hws⟩
  · next hskip =>
    split at h
    · cases h
    · obtain ⟨ws, hws⟩ := exists_members_of_readFields (hr _) h
      exact ⟨.object ws, before_object hskip hws⟩
  · exact absurd h (Record.refuse_ne_ok _ _ _)

end

/-! ## Text -/

theorem exists_tree_of_readString {s : String} {input behind rest : Input}
    (hskip : skipSpace input = .char '"' :: behind) (h : readString behind = .ok (s, rest)) :
    ∃ w : Written, Before w.tokens input rest := by
  obtain ⟨ps, rfl⟩ := exists_pieces_of_readStringFrom h
  exact ⟨.string ps, .of_token hskip⟩

theorem exists_tree_of_readText {s : String} {input rest : Input}
    (h : readText input = .ok (s, rest)) : ∃ w : Written, Before w.tokens input rest := by
  rw [readText] at h
  split at h
  · cases h
  · next hskip => exact exists_tree_of_readString hskip h
  · exact absurd h (Record.refuse_ne_ok _ _ _)

theorem exists_tree_of_null {input behind rest : Input}
    (hskip : skipSpace input = .char 'n' :: behind)
    (h : readWord ['u', 'l', 'l'] behind = .ok rest) :
    ∃ w : Written, Before w.tokens input rest := by
  refine before_of_atom ?_
  rw [hskip]
  exact exists_atom_of_word (w := .null) rfl h

theorem exists_tree_of_readOptionalText {s : Option String} {input rest : Input}
    (h : readOptionalText input = .ok (s, rest)) : ∃ w : Written, Before w.tokens input rest := by
  rw [readOptionalText] at h
  split at h
  · next hskip =>
    obtain ⟨_, hword, h⟩ := map_eq_ok_iff.1 h
    cases h
    exact exists_tree_of_null hskip hword
  · obtain ⟨⟨s, _⟩, htext, h⟩ := map_eq_ok_iff.1 h
    cases h
    obtain ⟨w, hw⟩ := exists_tree_of_readText htext
    exact ⟨w, hw.of_skipSpace⟩

/-! ## Whole texts -/

/-- **A whole text that is read is a tree**, if what its reader reads is. -/
theorem exists_tree_of_readAll {α : Type} {read : Nat → Nat → Input → Except Fault (α × Input)}
    (hread : ∀ {bound depth : Nat} {input rest : Input} {x : α},
      read bound depth input = .ok (x, rest) → ∃ w : Written, Before w.tokens input rest)
    {input : Input} {x : α} (h : readAll read input = .ok x) :
    ∃ w : Written, Spaced w.tokens input := by
  rw [readAll] at h
  obtain ⟨⟨x', rest⟩, hx, h⟩ := bind_eq_ok_iff.1 h
  obtain ⟨_, hfinish, h⟩ := bind_eq_ok_iff.1 h
  obtain ⟨w, hw⟩ := hread hx
  have hrest : skipSpace rest = [] := by
    rw [finish] at hfinish
    split at hfinish
    · next hskip => exact hskip
    · cases hfinish
  have hnothing : Spaced [] rest := by
    refine Spaced.of_skipSpace ?_
    rw [hrest]
    exact .done (List.forall_mem_nil _)
  have hspaced := hw.spaced hnothing
  rw [List.append_nil] at hspaced
  exact ⟨w, hspaced⟩

end Json

end EventFeed
