import EventFeed.Proofs.Json.Lexemes
import EventFeed.Proofs.Json.RoundTrip

/-!
# EventFeed.Proofs.Json.Spelling

Readers read what is spelled.  Wherever the tokens of a tree stand in a text,
with any white space around them and something behind them that ends a value, the
reader of values gives what the tree stands for and leaves the tokens behind it,
or refuses if the tree stands for nothing (`gives_readValue`).

`Gives` says this of one reader, and what a reader does after another one follows
from what both give.
-/

namespace EventFeed

namespace Json

open Written (token quote)

/-! ## Tokens -/

theorem skipSpace_append {blank : Input} (h : ∀ s ∈ blank, isSpace s = true) (input : Input) :
    skipSpace (blank ++ input) = skipSpace input := by
  induction blank with
  | nil => rfl
  | cons s blank ih =>
    obtain ⟨hs, hblank⟩ := List.forall_mem_cons.1 h
    rw [List.cons_append, skipSpace, List.dropWhile_cons, if_pos hs]
    exact ih hblank

/-- Space is skipped in front of the next token. -/
theorem Spaced.skipSpace_cons {s : Symbol} {t : Input} {ts : List Input} {input : Input}
    (h : Spaced ((s :: t) :: ts) input) (hs : isSpace s = false) :
    ∃ rest, skipSpace input = s :: (t ++ rest) ∧ Spaced ts rest := by
  cases h with
  | @next _ white _ _ rest hrest =>
    refine ⟨rest, ?_, hrest⟩
    rw [skipSpace_append white, List.cons_append, skipSpace, List.dropWhile_cons]
    simp [hs]

/-- Nothing is left behind the last token. -/
theorem Spaced.skipSpace_nil {input : Input} (h : Spaced [] input) : skipSpace input = [] := by
  cases h with
  | done white => simpa using skipSpace_append white []

/-- No white space is needed in front of a token. -/
theorem Spaced.cons (t : Input) {ts : List Input} {rest : Input} (h : Spaced ts rest) :
    Spaced (t :: ts) (t ++ rest) :=
  .next (List.forall_mem_nil _) t h

/-- A token of one character. -/
theorem Spaced.skipSpace_mark {c : Char} {ts : List Input} {input : Input}
    (h : Spaced (token [c] :: ts) input) (hc : isSpace (.char c) = false) :
    ∃ rest, skipSpace input = .char c :: rest ∧ Spaced ts rest :=
  h.skipSpace_cons hc

/-- No more of a number stands behind a value. -/
theorem Spaced.endsNumber {more : List Input} {rest : Input} (h : Spaced more rest)
    (hends : Ends more) : EndsNumber rest := by
  have hspace {s : Symbol} (hs : isSpace s = true) :
      digit? s = none ∧ s ≠ .char '.' ∧ s ≠ .char 'e' ∧ s ≠ .char 'E' := by
    cases s with
    | stray b => cases hs
    | char c =>
      simp only [isSpace, Bool.or_eq_true, beq_iff_eq] at hs
      rcases hs with ((rfl | rfl) | rfl) | rfl <;> decide
  intro s hs
  cases h with
  | done white => exact hspace (white s (List.mem_of_mem_head? hs))
  | @next blank white t ts rest hrest =>
    cases blank with
    | cons b blank =>
      cases hs
      exact hspace (white s List.mem_cons_self)
    | nil =>
      rcases hends t rfl with rfl | rfl | rfl
      · exact endsNumber_cons (by decide) (by decide) (by decide) (by decide) _ s hs
      · exact endsNumber_cons (by decide) (by decide) (by decide) (by decide) _ s hs
      · exact endsNumber_cons (by decide) (by decide) (by decide) (by decide) _ s hs

/-! ## What a reader gives -/

/-- A reader gives what there is to be read, and leaves the tokens behind it; if
there is nothing to be read, it refuses. -/
inductive Gives {α : Type} (more : List Input) : Option α → Except Fault (α × Input) → Prop
  | read {x : α} {rest : Input} (left : Spaced more rest) : Gives more (some x) (.ok (x, rest))
  | refused {f : Fault} : Gives more none (.error f)

namespace Gives

variable {α β : Type} {more mid : List Input} {v : Option α} {r : Except Fault (α × Input)}

/-- A reader whose result and rest are known. -/
theorem of_toOption {rest : Input} (h : r.toOption = v.map fun x => (x, rest))
    (hrest : Spaced more rest) : Gives more v r := by
  cases r with
  | error f =>
    cases v with
    | none => exact .refused
    | some x => cases h
  | ok p =>
    cases v with
    | none => cases h
    | some x =>
      obtain rfl := Option.some.inj h
      exact .read hrest

/-- One reader after the other. -/
theorem bind {f : α → Option β} {g : α × Input → Except Fault (β × Input)} (h : Gives mid v r)
    (hg : ∀ x rest, Spaced mid rest → Gives more (f x) (g (x, rest))) :
    Gives more (v.bind f) (r >>= g) := by
  cases h with
  | read left => exact hg _ _ left
  | refused => exact .refused

/-- A reader whose result is changed. -/
theorem map (h : Gives more v r) (f : α → β) :
    Gives more (v.map f) (r.map fun p => (f p.1, p.2)) := by
  cases h with
  | read left => exact .read left
  | refused => exact .refused

/-- A reader whose faults are told to lie further down. -/
theorem under (h : Gives more v r) (step : Step) : Gives more v (under step r) := by
  cases h with
  | read left => exact .read left
  | refused => exact .refused

end Gives

/-- A reader gives a result wherever the tokens of a tree stand. -/
def GivesOn {α : Type} (read : Input → Read α) (v : Option α) (w : Written) : Prop :=
  ∀ (more : List Input) (input : Input), Spaced (w.tokens ++ more) input → Ends more →
    Gives more v (read input)

/-! ## Strings -/

/-- A string is read as the text that its pieces stand for. -/
theorem gives_readString (ps : List Piece) {more : List Input} {rest : Input}
    (h : Spaced more rest) : Gives more (text? ps) (readString (closed ps ++ rest)) := by
  refine .of_toOption ?_ h
  rw [readString, toOption_readStringFrom, if_pos rfl, text?, Option.map_map]
  rfl

/-! ## Atoms -/

theorem tokens_array_cons (xs : List Written) :
    ∃ ts, (Written.array xs).tokens = token ['['] :: ts := by
  cases xs <;> exact ⟨_, rfl⟩

theorem tokens_object_cons (ms : List (List Piece × Written)) :
    ∃ ts, (Written.object ms).tokens = token ['{'] :: ts := by
  rcases ms with _ | ⟨⟨k, x⟩, ms⟩ <;> exact ⟨_, rfl⟩

/-- The first character of a value tells its kind. -/
structure Leads (w : Written) (c : Char) : Prop where
  starts : Starts c
  null_of : c = 'n' → w = .null
  string_of : c = '"' → ∃ ps, w = .string ps
  array_of : c = '[' → ∃ xs, w = .array xs
  object_of : c = '{' → ∃ ms, w = .object ms

/-- Another character leads anything else. -/
theorem leads_other {w : Written} {c : Char} (h : Starts c)
    (hother : c ≠ 'n' ∧ c ≠ '"' ∧ c ≠ '[' ∧ c ≠ '{') : Leads w c :=
  ⟨h, fun hc => absurd hc hother.1, fun hc => absurd hc hother.2.1,
    fun hc => absurd hc hother.2.2.1, fun hc => absurd hc hother.2.2.2⟩

/-- A value starts with a character that leads it. -/
theorem tokens_leads (w : Written) : ∃ c t ts, w.tokens = (.char c :: t) :: ts ∧ Leads w c := by
  cases w with
  | null =>
    exact ⟨'n', _, _, rfl, by decide, fun _ => rfl, fun h => absurd h (by decide),
      fun h => absurd h (by decide), fun h => absurd h (by decide)⟩
  | bool b => cases b <;> exact ⟨_, _, _, rfl, leads_other (by decide) (by decide)⟩
  | number f =>
    obtain ⟨c, cs, hchars, hc⟩ := exists_chars_cons f
    refine ⟨c, cs.map .char, [], by rw [Written.tokens, hchars]; rfl, ?_⟩
    rcases hc with ⟨-, rfl, -⟩ | ⟨-, hc, -⟩
    · exact leads_other (by decide) (by decide)
    · have hne {d : Char} := ne_of_isDigit (d := d) hc
      exact leads_other (starts_of_isDigit hc)
        ⟨hne (by decide), hne (by decide), hne (by decide), hne (by decide)⟩
  | string ps =>
    exact ⟨'"', _, _, rfl, by decide, fun h => absurd h (by decide), fun _ => ⟨ps, rfl⟩,
      fun h => absurd h (by decide), fun h => absurd h (by decide)⟩
  | array xs =>
    obtain ⟨ts, htokens⟩ := tokens_array_cons xs
    exact ⟨'[', _, _, htokens, by decide, fun h => absurd h (by decide),
      fun h => absurd h (by decide), fun _ => ⟨xs, rfl⟩, fun h => absurd h (by decide)⟩
  | object ms =>
    obtain ⟨ts, htokens⟩ := tokens_object_cons ms
    exact ⟨'{', _, _, htokens, by decide, fun h => absurd h (by decide),
      fun h => absurd h (by decide), fun h => absurd h (by decide), fun _ => ⟨ms, rfl⟩⟩

/-- The first token of a value is no end and no comma. -/
theorem tokens_starts (w : Written) : ∃ c t ts, w.tokens = (.char c :: t) :: ts ∧ Starts c := by
  obtain ⟨c, t, ts, htokens, hc⟩ := tokens_leads w
  exact ⟨c, t, ts, htokens, hc.starts⟩

/-- What a reader finds at a value. -/
theorem Spaced.skipSpace_value {w : Written} {more : List Input} {input : Input}
    (h : Spaced (w.tokens ++ more) input) :
    ∃ c rest, skipSpace input = .char c :: rest ∧ Leads w c := by
  obtain ⟨c, t, ts, htokens, hc⟩ := tokens_leads w
  rw [htokens] at h
  obtain ⟨rest, hskip, -⟩ := h.skipSpace_cons hc.starts.1
  exact ⟨c, t ++ rest, hskip, hc⟩

/-- A value is looked for behind white space. -/
theorem readValue_skipSpace (bound depth : Nat) (input : Input) :
    readValue bound depth (skipSpace input) = readValue bound depth input := by
  cases depth <;> rw [readValue, readValue, skipSpace_skipSpace]

/-- Atoms are read as what they stand for. -/
theorem gives_readValue_atom {w : Written} {a? : Option Atom} {c : Char} {t : Input}
    (htokens : w.tokens = [.char c :: t]) (hlist : c ≠ '[') (hobject : c ≠ '{')
    (hatom : ∀ rest, EndsNumber rest →
      (readAtom (.char c :: (t ++ rest))).toOption = a?.map fun a => (a, rest))
    (bound depth : Nat) : GivesOn (readValue bound depth) (a?.map Atom.toJson) w := by
  intro more input h hends
  obtain ⟨c', t', ts, hstarts, hc⟩ := tokens_starts w
  rw [htokens] at h hstarts
  obtain rfl : c = c' := by
    cases hstarts
    rfl
  obtain ⟨rest, hskip, hrest⟩ := h.skipSpace_cons hc.1
  have hgives : Gives more a? (readAtom (.char c :: (t ++ rest))) :=
    .of_toOption (hatom rest (hrest.endsNumber hends)) hrest
  have hvalue : readValue bound depth input =
      (readAtom (.char c :: (t ++ rest))).map fun p => (p.1.toJson, p.2) := by
    rw [← readValue_skipSpace, hskip]
    cases depth <;> simp [readValue, skipSpace_of_starts hc, hlist, hobject]
  rw [hvalue]
  exact hgives.map Atom.toJson

/-! ## Lists, step by step -/

theorem ends_moreItems (xs : List Written) (more : List Input) :
    Ends (Written.moreItems xs ++ more) := by
  intro t ht
  cases xs with
  | nil =>
    cases ht
    exact .inr (.inl rfl)
  | cons x xs =>
    cases ht
    exact .inl rfl

theorem ends_moreMembers (ms : List (List Piece × Written)) (more : List Input) :
    Ends (Written.moreMembers ms ++ more) := by
  intro t ht
  cases ms with
  | nil =>
    cases ht
    exact .inr (.inr rfl)
  | cons m ms =>
    cases ht
    exact .inl rfl

namespace Spaced

variable {w : Written} {more : List Input} {input : Input}

/-- The first item. -/
theorem nextItem_first (h : Spaced (w.tokens ++ more) input) :
    ∃ next, nextItem true input = .ok (some next) ∧ Spaced (w.tokens ++ more) next := by
  obtain ⟨c, t, ts, htokens, hc⟩ := tokens_starts w
  rw [htokens] at h ⊢
  obtain ⟨rest, hskip, hrest⟩ := h.skipSpace_cons hc.1
  refine ⟨.char c :: (t ++ rest), ?_, hrest.cons (.char c :: t)⟩
  rw [nextItem, hskip]
  simp [hc.2.1, hc.2.2.1]

/-- An item behind another one. -/
theorem nextItem_more (h : Spaced (token [','] :: (w.tokens ++ more)) input) :
    ∃ next, nextItem false input = .ok (some next) ∧ Spaced (w.tokens ++ more) next := by
  obtain ⟨behind, hcomma, h⟩ := h.skipSpace_mark (by decide)
  obtain ⟨c, t, ts, htokens, hc⟩ := tokens_starts w
  rw [htokens] at h ⊢
  obtain ⟨rest, hskip, hrest⟩ := h.skipSpace_cons hc.1
  refine ⟨.char c :: (t ++ rest), ?_, hrest.cons (.char c :: t)⟩
  rw [nextItem, hcomma]
  simp [hskip, hc.2.1]

/-- The bracket behind the last item. -/
theorem closeList (h : Spaced (token [']'] :: more) input) (first : Bool) :
    nextItem first input = .ok none ∧
      ∃ rest, Json.closeList input = .ok rest ∧ Spaced more rest := by
  obtain ⟨rest, hskip, hrest⟩ := h.skipSpace_mark (by decide)
  refine ⟨?_, rest, ?_, hrest⟩
  · rw [nextItem, hskip]
    rfl
  · rw [Json.closeList, hskip]
    rfl

/-- The name of the first member. -/
theorem nextMember_first {k : List Piece} (h : Spaced (quote k :: more) input) :
    ∃ next, nextMember true input = .ok (some (closed k ++ next)) ∧ Spaced more next := by
  obtain ⟨rest, hskip, hrest⟩ := h.skipSpace_cons rfl
  refine ⟨rest, ?_, hrest⟩
  rw [nextMember, hskip]
  rfl

/-- The name of a member behind another one. -/
theorem nextMember_more {k : List Piece} (h : Spaced (token [','] :: quote k :: more) input) :
    ∃ next, nextMember false input = .ok (some (closed k ++ next)) ∧ Spaced more next := by
  obtain ⟨behind, hcomma, h⟩ := h.skipSpace_mark (by decide)
  obtain ⟨rest, hskip, hrest⟩ := h.skipSpace_cons rfl
  refine ⟨rest, ?_, hrest⟩
  rw [nextMember, hcomma]
  simp [hskip]

/-- The brace behind the last member. -/
theorem closeObject (h : Spaced (token ['}'] :: more) input) (first : Bool) :
    nextMember first input = .ok none ∧
      ∃ rest, Json.closeObject input = .ok rest ∧ Spaced more rest := by
  obtain ⟨rest, hskip, hrest⟩ := h.skipSpace_mark (by decide)
  refine ⟨?_, rest, ?_, hrest⟩
  · rw [nextMember, hskip]
    rfl
  · rw [Json.closeObject, hskip]
    rfl

/-- The colon behind a name. -/
theorem readColon (h : Spaced (token [':'] :: more) input) :
    ∃ rest, Json.readColon input = .ok rest ∧ Spaced more rest := by
  obtain ⟨rest, hskip, hrest⟩ := h.skipSpace_mark (by decide)
  refine ⟨rest, ?_, hrest⟩
  rw [Json.readColon, hskip]
  rfl

end Spaced

/-- One item is read, and then the others. -/
theorem gives_readItems_step {item : Input → Read Json} {v : Option Json} {w : Written}
    (hw : GivesOn item v w) {bound index : Nat} {first : Bool} (hfirst : (index == 0) = first)
    {done : List Json} {xs : List Written} {more : List Input} {input next : Input}
    (hnext : nextItem first input = .ok (some next))
    (h : Spaced (w.tokens ++ (Written.moreItems xs ++ more)) next)
    {vs : Json → Option (List Json)}
    (hrest : ∀ x rest, Spaced (Written.moreItems xs ++ more) rest →
      Gives more (vs x) (readItems item bound (index + 1) (x :: done) rest)) :
    Gives more (v.bind vs) (readItems item (bound + 1) index done input) := by
  rw [readItems, hfirst, hnext]
  exact ((hw _ _ h (ends_moreItems xs more)).under (.item index)).bind hrest

/-- The items behind the first one are read, and the bracket. -/
theorem gives_readItems_more {item : Input → Read Json} {value? : Written → Option Json}
    {xs : List Written} (hxs : ∀ x ∈ xs, GivesOn item (value? x) x) {bound : Nat}
    (hbound : xs.length < bound) (index : Nat) (done : List Json) {more : List Input}
    {input : Input} (h : Spaced (Written.moreItems xs ++ more) input) :
    Gives more ((xs.mapM value?).map (done.reverse ++ ·))
      (readItems item bound (index + 1) done input) := by
  induction xs generalizing bound index done input with
  | nil =>
    cases bound with
    | zero => cases hbound
    | succ bound =>
      obtain ⟨hnone, rest, hclose, hrest⟩ := h.closeList false
      have hread :
          readItems item (bound + 1) (index + 1) done input = .ok (done.reverse, rest) := by
        rw [readItems, show (index + 1 == 0) = false from rfl, hnone]
        simp only [bind, Except.bind, hclose, pure, Except.pure]
      rw [hread]
      simpa using Gives.read hrest
  | cons x xs ih =>
    cases bound with
    | zero => cases hbound
    | succ bound =>
      obtain ⟨hx, hxs⟩ := List.forall_mem_cons.1 hxs
      rw [Written.moreItems, List.cons_append, List.append_assoc] at h
      obtain ⟨next, hnext, h⟩ := h.nextItem_more
      have hvs : ((x :: xs).mapM value?).map (done.reverse ++ ·) =
          (value? x).bind fun v => (xs.mapM value?).map ((v :: done).reverse ++ ·) := by
        cases hv : value? x <;> cases hvs : xs.mapM value? <;>
          simp [List.mapM_cons, hv, hvs]
      have hlater : (index + 1 == 0) = false := rfl
      rw [hvs]
      exact gives_readItems_step hx hlater hnext h fun v rest hrest =>
        ih hxs (Nat.lt_of_succ_lt_succ hbound) (index + 1) (v :: done) hrest

/-- An array is read item by item. -/
theorem gives_readItems {item : Input → Read Json} {value? : Written → Option Json}
    {xs : List Written} (hxs : ∀ x ∈ xs, GivesOn item (value? x) x) {bound : Nat}
    (hbound : xs.length < bound) {more : List Input} {input : Input}
    (h : Spaced ((Written.array xs).tokens ++ more) input) :
    ∃ rest, skipSpace input = .char '[' :: rest ∧
      Gives more (xs.mapM value?) (readItems item bound 0 [] rest) := by
  cases bound with
  | zero => cases hbound
  | succ bound =>
    cases xs with
    | nil =>
      obtain ⟨rest, hskip, h⟩ := Spaced.skipSpace_mark h (by decide)
      obtain ⟨hnone, behind, hclose, hbehind⟩ := Spaced.closeList h true
      refine ⟨rest, hskip, ?_⟩
      have hread : readItems item (bound + 1) 0 [] rest = .ok ([], behind) := by
        rw [readItems, show (0 == 0) = true from rfl, hnone]
        simp only [bind, Except.bind, hclose, pure, Except.pure, List.reverse_nil]
      rw [hread]
      exact .read hbehind
    | cons x xs =>
      obtain ⟨hx, hxs⟩ := List.forall_mem_cons.1 hxs
      rw [Written.tokens, List.cons_append, List.append_assoc] at h
      obtain ⟨rest, hskip, h⟩ := h.skipSpace_mark (by decide)
      obtain ⟨next, hnext, h⟩ := h.nextItem_first
      refine ⟨rest, hskip, ?_⟩
      have hvs : (x :: xs).mapM value? =
          (value? x).bind fun v => (xs.mapM value?).map ([v].reverse ++ ·) := by
        cases hv : value? x <;> cases hvs : xs.mapM value? <;> simp [List.mapM_cons, hv, hvs]
      have hfirst : (0 == 0) = true := rfl
      rw [hvs]
      exact gives_readItems_step hx hfirst hnext h fun v rest hrest =>
        gives_readItems_more hxs (Nat.lt_of_succ_lt_succ hbound) 0 [v] hrest

/-! ## Objects, step by step -/

/-- One member is read, and then the others. -/
theorem gives_readMembers_step {value : Input → Read Json} {v : Option Json} {w : Written}
    (hw : GivesOn value v w) {bound : Nat} {first : Bool} {done : List (String × Json)}
    {k : List Piece} {ms : List (List Piece × Written)} {more : List Input} {input next : Input}
    (hnext : nextMember first input = .ok (some (closed k ++ next)))
    (h : Spaced (token [':'] :: (w.tokens ++ (Written.moreMembers ms ++ more))) next)
    {vs : String → Json → Option (List (String × Json))}
    (hrest : ∀ name x rest, Spaced (Written.moreMembers ms ++ more) rest →
      Gives more (vs name x) (readMembers value bound false (insert name x done) rest)) :
    Gives more ((text? k).bind fun name => v.bind (vs name))
      (readMembers value (bound + 1) first done input) := by
  rw [readMembers, hnext]
  refine ((gives_readString k h).under .unknown).bind fun name rest h => ?_
  obtain ⟨behind, hcolon, h⟩ := h.readColon
  simp only [hcolon]
  exact ((hw _ _ h (ends_moreMembers ms more)).under (.member name)).bind (hrest name)

/-- The members behind the first one are read, and the brace. -/
theorem gives_readMembers_more {value : Input → Read Json} {value? : Written → Option Json}
    {ms : List (List Piece × Written)} (hms : ∀ m ∈ ms, GivesOn value (value? m.2) m.2)
    {bound : Nat} (hbound : ms.length < bound) (done : List (String × Json)) {more : List Input}
    {input : Input} (h : Spaced (Written.moreMembers ms ++ more) input) :
    Gives more (Written.insertAll? value? done ms) (readMembers value bound false done input) := by
  induction ms generalizing bound done input with
  | nil =>
    cases bound with
    | zero => cases hbound
    | succ bound =>
      obtain ⟨hnone, rest, hclose, hrest⟩ := Spaced.closeObject h false
      have hread : readMembers value (bound + 1) false done input = .ok (done, rest) := by
        rw [readMembers, hnone]
        simp only [bind, Except.bind, under_ok, hclose, pure, Except.pure]
      rw [hread]
      exact .read hrest
  | cons m ms ih =>
    obtain ⟨k, x⟩ := m
    cases bound with
    | zero => cases hbound
    | succ bound =>
      obtain ⟨hx, hms⟩ := List.forall_mem_cons.1 hms
      simp only [Written.moreMembers, List.cons_append, List.append_assoc] at h
      obtain ⟨next, hnext, h⟩ := h.nextMember_more
      exact gives_readMembers_step hx hnext h fun name v rest hrest =>
        ih hms (Nat.lt_of_succ_lt_succ hbound) (insert name v done) hrest

/-- An object is read member by member. -/
theorem gives_readMembers {value : Input → Read Json} {value? : Written → Option Json}
    {ms : List (List Piece × Written)} (hms : ∀ m ∈ ms, GivesOn value (value? m.2) m.2)
    {bound : Nat} (hbound : ms.length < bound) {more : List Input} {input : Input}
    (h : Spaced ((Written.object ms).tokens ++ more) input) :
    ∃ rest, skipSpace input = .char '{' :: rest ∧
      Gives more (Written.insertAll? value? [] ms) (readMembers value bound true [] rest) := by
  cases bound with
  | zero => cases hbound
  | succ bound =>
    cases ms with
    | nil =>
      obtain ⟨rest, hskip, h⟩ := Spaced.skipSpace_mark h (by decide)
      obtain ⟨hnone, behind, hclose, hbehind⟩ := Spaced.closeObject h true
      refine ⟨rest, hskip, ?_⟩
      have hread : readMembers value (bound + 1) true [] rest = .ok ([], behind) := by
        rw [readMembers, hnone]
        simp only [bind, Except.bind, under_ok, hclose, pure, Except.pure]
      rw [hread]
      exact .read hbehind
    | cons m ms =>
      obtain ⟨k, x⟩ := m
      obtain ⟨hx, hms⟩ := List.forall_mem_cons.1 hms
      simp only [Written.tokens, List.cons_append, List.append_assoc] at h
      obtain ⟨rest, hskip, h⟩ := h.skipSpace_mark (by decide)
      obtain ⟨next, hnext, h⟩ := h.nextMember_first
      exact ⟨rest, hskip, gives_readMembers_step hx hnext h fun name v rest hrest =>
        gives_readMembers_more hms (Nat.lt_of_succ_lt_succ hbound) (insert name v []) hrest⟩

/-! ## Values -/

theorem length_moreItems (xs : List Written) : xs.length < (Written.moreItems xs).length ∧
    ∀ x ∈ xs, x.tokens.length < (Written.moreItems xs).length := by
  induction xs with
  | nil => simp [Written.moreItems]
  | cons y ys ih =>
    simp only [Written.moreItems, List.length_append, List.length_cons, List.mem_cons]
    refine ⟨by omega, fun x hx => ?_⟩
    rcases hx with rfl | hx
    · omega
    · have := ih.2 x hx
      omega

theorem length_moreMembers (ms : List (List Piece × Written)) :
    ms.length < (Written.moreMembers ms).length ∧
      ∀ m ∈ ms, m.2.tokens.length < (Written.moreMembers ms).length := by
  induction ms with
  | nil => simp [Written.moreMembers]
  | cons first rest ih =>
    obtain ⟨k, y⟩ := first
    simp only [Written.moreMembers, List.length_append, List.length_cons, List.mem_cons]
    refine ⟨by omega, fun m hm => ?_⟩
    rcases hm with rfl | hm
    · show y.tokens.length < _
      omega
    · have := ih.2 m hm
      omega

/-- An array has more tokens than items, and than each of them has. -/
theorem length_tokens_array (xs : List Written) :
    xs.length < (Written.array xs).tokens.length ∧
      ∀ x ∈ xs, x.tokens.length < (Written.array xs).tokens.length := by
  cases xs with
  | nil => simp [Written.tokens]
  | cons y ys =>
    obtain ⟨hlength, hall⟩ := length_moreItems ys
    simp only [Written.tokens, List.length_append, List.length_cons]
    refine ⟨by omega, fun x hx => ?_⟩
    rcases List.mem_cons.1 hx with rfl | hx
    · omega
    · have := hall x hx
      omega

/-- An object has more tokens than members, and than the value of each has. -/
theorem length_tokens_object (ms : List (List Piece × Written)) :
    ms.length < (Written.object ms).tokens.length ∧
      ∀ m ∈ ms, m.2.tokens.length < (Written.object ms).tokens.length := by
  cases ms with
  | nil => simp [Written.tokens]
  | cons first rest =>
    obtain ⟨k, y⟩ := first
    obtain ⟨hlength, hall⟩ := length_moreMembers rest
    simp only [Written.tokens, List.length_append, List.length_cons]
    refine ⟨by omega, fun m hm => ?_⟩
    rcases List.mem_cons.1 hm with rfl | hm
    · show y.tokens.length < _
      omega
    · have := hall m hm
      omega

/-- Words are read as what they stand for. -/
theorem gives_readValue_null (bound depth : Nat) :
    GivesOn (readValue bound depth) (some .null) .null := by
  have hatom (rest : Input) (_ : EndsNumber rest) :
      (readAtom (.char 'n' :: (token ['u', 'l', 'l'] ++ rest))).toOption =
        (some Atom.null).map fun a => (a, rest) := rfl
  have htokens : Written.null.tokens = [token ['n', 'u', 'l', 'l']] := rfl
  exact gives_readValue_atom htokens (by decide) (by decide) hatom bound depth

theorem gives_readValue_bool (b : Bool) (bound depth : Nat) :
    GivesOn (readValue bound depth) (some (.bool b)) (.bool b) := by
  cases b with
  | true =>
    have hatom (rest : Input) (_ : EndsNumber rest) :
        (readAtom (.char 't' :: (token ['r', 'u', 'e'] ++ rest))).toOption =
          (some (Atom.bool true)).map fun a => (a, rest) := rfl
    have htokens : (Written.bool true).tokens = [token ['t', 'r', 'u', 'e']] := rfl
    exact gives_readValue_atom htokens (by decide) (by decide) hatom bound depth
  | false =>
    have hatom (rest : Input) (_ : EndsNumber rest) :
        (readAtom (.char 'f' :: (token ['a', 'l', 's', 'e'] ++ rest))).toOption =
          (some (Atom.bool false)).map fun a => (a, rest) := rfl
    have htokens : (Written.bool false).tokens = [token ['f', 'a', 'l', 's', 'e']] := rfl
    exact gives_readValue_atom htokens (by decide) (by decide) hatom bound depth

/-- A string is read as the text that it stands for. -/
theorem gives_readValue_string (ps : List Piece) (bound depth : Nat) :
    GivesOn (readValue bound depth) ((text? ps).map .string) (.string ps) := by
  have hatom (rest : Input) (_ : EndsNumber rest) :
      (readAtom (.char '"' :: (closed ps ++ rest))).toOption =
        ((text? ps).map Atom.string).map fun a => (a, rest) := by
    rw [readAtom, toOption_map, readString, toOption_readStringFrom, if_pos rfl, text?,
      Option.map_map, Option.map_map, Option.map_map]
    rfl
  have htokens : (Written.string ps).tokens = [quote ps] := rfl
  have hgives := gives_readValue_atom htokens (by decide) (by decide) hatom bound depth
  rwa [Option.map_map] at hgives

/-- A number is read as the number that it stands for, if there is one. -/
theorem gives_readValue_number (f : Figures) (bound depth : Nat) :
    GivesOn (readValue bound depth) (f.value?.map .number) (.number f) := by
  obtain ⟨c, cs, hchars, hc⟩ := exists_chars_cons f
  have hopen : c ≠ '[' ∧ c ≠ '{' := by
    rcases hc with ⟨-, rfl, -⟩ | ⟨-, hc, -⟩
    · decide
    · exact ⟨ne_of_isDigit hc (by decide), ne_of_isDigit hc (by decide)⟩
  have hatom (rest : Input) (h : EndsNumber rest) :
      (readAtom (.char c :: (cs.map .char ++ rest))).toOption =
        (f.value?.map Atom.number).map fun a => (a, rest) := by
    have hread := toOption_readAtom_chars f h
    rw [hchars, List.map_cons, List.cons_append] at hread
    rw [hread, Option.map_map]
    rfl
  have htokens : (Written.number f).tokens = [.char c :: cs.map .char] := by
    rw [Written.tokens, hchars]
    rfl
  have hgives := gives_readValue_atom htokens hopen.1 hopen.2 hatom bound depth
  rwa [Option.map_map] at hgives

/-- **A value is read as what its tree stands for**, if the tree has no more
tokens than the bound. -/
theorem gives_readValue {w : Written} {bound : Nat} (hbound : w.tokens.length ≤ bound)
    (depth : Nat) : GivesOn (readValue bound depth) (w.value? depth) w := by
  -- the reader counts down how deep it may go, and so does the tree
  induction depth generalizing w with
  | zero =>
    cases w with
    | null => exact gives_readValue_null bound 0
    | bool b => exact gives_readValue_bool b bound 0
    | number f => exact gives_readValue_number f bound 0
    | string ps => exact gives_readValue_string ps bound 0
    | array xs =>
      intro more input h _
      obtain ⟨ts, htokens⟩ := tokens_array_cons xs
      rw [htokens] at h
      obtain ⟨rest, hskip, -⟩ := h.skipSpace_mark (by decide)
      rw [readValue, hskip]
      exact .refused
    | object ms =>
      intro more input h _
      obtain ⟨ts, htokens⟩ := tokens_object_cons ms
      rw [htokens] at h
      obtain ⟨rest, hskip, -⟩ := h.skipSpace_mark (by decide)
      rw [readValue, hskip]
      exact .refused
  | succ depth ih =>
    cases w with
    | null => exact gives_readValue_null bound (depth + 1)
    | bool b => exact gives_readValue_bool b bound (depth + 1)
    | number f => exact gives_readValue_number f bound (depth + 1)
    | string ps => exact gives_readValue_string ps bound (depth + 1)
    | array xs =>
      intro more input h _
      obtain ⟨hlength, hall⟩ := length_tokens_array xs
      obtain ⟨rest, hskip, hgives⟩ := gives_readItems
        (fun x hx => ih (Nat.le_trans (Nat.le_of_lt (hall x hx)) hbound))
        (Nat.lt_of_lt_of_le hlength hbound) h
      rw [readValue, hskip]
      exact hgives.map Json.array
    | object ms =>
      intro more input h _
      obtain ⟨hlength, hall⟩ := length_tokens_object ms
      obtain ⟨rest, hskip, hgives⟩ := gives_readMembers
        (fun m hm => ih (Nat.le_trans (Nat.le_of_lt (hall m hm)) hbound))
        (Nat.lt_of_lt_of_le hlength hbound) h
      rw [readValue, hskip]
      exact hgives.map Json.object

/-! ## Whole texts -/

theorem mark_ne_nil (c : Char) : token [c] ≠ [] := List.cons_ne_nil _ _

theorem moreItems_ne_nil {xs : List Written} (h : ∀ x ∈ xs, ∀ t ∈ x.tokens, t ≠ []) :
    ∀ t ∈ Written.moreItems xs, t ≠ [] := by
  induction xs with
  | nil => exact List.forall_mem_singleton.2 (mark_ne_nil _)
  | cons x xs ih =>
    obtain ⟨hx, hxs⟩ := List.forall_mem_cons.1 h
    exact List.forall_mem_cons.2 ⟨mark_ne_nil _, List.forall_mem_append.2 ⟨hx, ih hxs⟩⟩

theorem member_ne_nil {k : List Piece} {x : Written} {ts : List Input}
    (hx : ∀ t ∈ x.tokens, t ≠ []) (hts : ∀ t ∈ ts, t ≠ []) (c : Char) :
    ∀ t ∈ token [c] :: quote k :: token [':'] :: (x.tokens ++ ts), t ≠ [] :=
  List.forall_mem_cons.2 ⟨mark_ne_nil c, List.forall_mem_cons.2 ⟨List.cons_ne_nil _ _,
    List.forall_mem_cons.2 ⟨mark_ne_nil _, List.forall_mem_append.2 ⟨hx, hts⟩⟩⟩⟩

theorem moreMembers_ne_nil {ms : List (List Piece × Written)}
    (h : ∀ m ∈ ms, ∀ t ∈ m.2.tokens, t ≠ []) : ∀ t ∈ Written.moreMembers ms, t ≠ [] := by
  induction ms with
  | nil => exact List.forall_mem_singleton.2 (mark_ne_nil _)
  | cons m ms ih =>
    obtain ⟨hm, hms⟩ := List.forall_mem_cons.1 h
    exact member_ne_nil hm (ih hms) ','

/-- No token is empty. -/
theorem tokens_ne_nil (w : Written) : ∀ t ∈ w.tokens, t ≠ [] := by
  -- on the number of tokens, because the parts of a tree stand in lists
  induction h : w.tokens.length using Nat.strongRecOn generalizing w with
  | ind n ih =>
    subst h
    cases w with
    | null => exact List.forall_mem_singleton.2 (List.cons_ne_nil _ _)
    | bool b => cases b <;> exact List.forall_mem_singleton.2 (List.cons_ne_nil _ _)
    | number f =>
      obtain ⟨c, cs, hchars, -⟩ := exists_chars_cons f
      refine List.forall_mem_singleton.2 ?_
      rw [hchars]
      exact List.cons_ne_nil _ _
    | string ps => exact List.forall_mem_singleton.2 (List.cons_ne_nil _ _)
    | array xs =>
      have hparts (x : Written) (hx : x ∈ xs) := ih _ ((length_tokens_array xs).2 x hx) x rfl
      cases xs with
      | nil =>
        exact List.forall_mem_cons.2 ⟨mark_ne_nil _, List.forall_mem_singleton.2 (mark_ne_nil _)⟩
      | cons x xs =>
        obtain ⟨hx, hxs⟩ := List.forall_mem_cons.1 hparts
        exact List.forall_mem_cons.2 ⟨mark_ne_nil _, List.forall_mem_append.2
          ⟨hx, moreItems_ne_nil hxs⟩⟩
    | object ms =>
      have hparts (m : List Piece × Written) (hm : m ∈ ms) :=
        ih _ ((length_tokens_object ms).2 m hm) m.2 rfl
      cases ms with
      | nil =>
        exact List.forall_mem_cons.2 ⟨mark_ne_nil _, List.forall_mem_singleton.2 (mark_ne_nil _)⟩
      | cons m ms =>
        obtain ⟨hm, hms⟩ := List.forall_mem_cons.1 hparts
        exact member_ne_nil hm (moreMembers_ne_nil hms) '{'

theorem Spaced.length_le {ts : List Input} {input : Input} (h : Spaced ts input)
    (hts : ∀ t ∈ ts, t ≠ []) : ts.length ≤ input.length := by
  induction h with
  | done _ => exact Nat.zero_le _
  | next _ t _ ih =>
    obtain ⟨ht, hts⟩ := List.forall_mem_cons.1 hts
    have hlength := List.length_pos_iff.2 ht
    have := ih hts
    simp only [List.length_cons, List.length_append]
    omega

/-- **A whole text is read as what its tree stands for**, if its reader gives that
wherever the tree stands. -/
theorem toOption_readAll {α : Type} {read : Nat → Nat → Input → Read α} {v : Option α}
    {w : Written}
    (hread : ∀ {bound : Nat}, w.tokens.length ≤ bound → GivesOn (read bound maxDepth) v w)
    {input : Input} (h : Spaced w.tokens input) : (readAll read input).toOption = v := by
  have hbound : w.tokens.length ≤ boundOf input :=
    Nat.le_trans (h.length_le (tokens_ne_nil w)) (Nat.le_succ _)
  have hends : Ends [] := fun t ht => by cases ht
  rw [← List.append_nil w.tokens] at h
  have hgives := hread hbound [] input h hends
  rw [readAll]
  generalize read (boundOf input) maxDepth input = r at hgives
  cases hgives with
  | refused => rfl
  | read left =>
    simp only [bind, Except.bind, finish, left.skipSpace_nil]
    rfl

end Json

end EventFeed
