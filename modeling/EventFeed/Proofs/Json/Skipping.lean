import EventFeed.Proofs.Json.Spelling

/-!
# EventFeed.Proofs.Json.Skipping

Whatever is spelled can be passed over (`skipValue_spaced`): numbers of any size,
damaged text and units without a partner, and values of any depth.

A list and an object are passed over in the same way, part by part.  Each part
takes a number of steps that depends on its tokens only, so that twice as many
steps as there are tokens are enough for any value.
-/

namespace EventFeed

namespace Json

open Written (token quote)

/-! ## Parts of a container -/

/-- The character that opens the container. -/
def Bracket.opening : Bracket → Char
  | .list => '['
  | .object => '{'

/-- The tokens of the parts behind the first one, and of the end. -/
def moreParts (b : Bracket) : List (List Input) → List Input
  | [] => [token [b.closing]]
  | p :: ps => token [','] :: (p ++ moreParts b ps)

/-- The tokens of all parts, and of the end. -/
def allParts (b : Bracket) : List (List Input) → List Input
  | [] => [token [b.closing]]
  | p :: ps => p ++ moreParts b ps

/-- The tokens of a member. -/
def memberTokens (m : List Piece × Written) : List Input :=
  quote m.1 :: token [':'] :: m.2.tokens

theorem moreItems_eq (xs : List Written) :
    Written.moreItems xs = moreParts .list (xs.map Written.tokens) := by
  induction xs with
  | nil => rfl
  | cons x xs ih => rw [Written.moreItems, ih, List.map_cons, moreParts]

theorem moreMembers_eq (ms : List (List Piece × Written)) :
    Written.moreMembers ms = moreParts .object (ms.map memberTokens) := by
  induction ms with
  | nil => rfl
  | cons m ms ih =>
    obtain ⟨k, x⟩ := m
    rw [Written.moreMembers, ih]
    rfl

theorem tokens_array (xs : List Written) :
    (Written.array xs).tokens =
      token [Bracket.list.opening] :: allParts .list (xs.map Written.tokens) := by
  cases xs with
  | nil => rfl
  | cons x xs =>
    rw [Written.tokens, moreItems_eq]
    rfl

theorem tokens_object (ms : List (List Piece × Written)) :
    (Written.object ms).tokens =
      token [Bracket.object.opening] :: allParts .object (ms.map memberTokens) := by
  rcases ms with _ | ⟨⟨k, x⟩, ms⟩
  · rfl
  · rw [Written.tokens, moreMembers_eq]
    rfl

/-- The value and the parts behind it end in a comma or a bracket. -/
theorem ends_moreParts (b : Bracket) (ps : List (List Input)) (more : List Input) :
    Ends (moreParts b ps ++ more) := by
  intro t ht
  cases ps with
  | nil =>
    cases ht
    cases b with
    | list => exact .inr (.inl rfl)
    | object => exact .inr (.inr rfl)
  | cons p ps =>
    cases ht
    exact .inl rfl

/-! ## Steps -/

/-- A value is passed over in less than two steps for each of its tokens. -/
def Skips (w : Written) : Prop :=
  ∃ k < 2 * w.tokens.length, ∀ (opened : List Bracket) (more : List Input) (input : Input),
    Spaced (w.tokens ++ more) input → Ends more →
      ∃ rest, Spaced more rest ∧
        ∀ n, skipOn (n + k) .value opened input = skipOn n (.part true) opened rest

/-- So is a part of a container, its name included. -/
def SkipsPart (b : Bracket) (p : List Input) : Prop :=
  (∃ c t ts, p = (.char c :: t) :: ts ∧ Starts c) ∧
  ∃ k < 2 * p.length, ∀ (opened : List Bracket) (more : List Input) (input : Input),
    Spaced (p ++ more) input → Ends more →
      ∃ rest, Spaced more rest ∧ ∀ n,
        (skipName b input >>= fun behind => skipOn (n + k) .value (b :: opened) behind) =
          skipOn n (.part true) (b :: opened) rest

/-- An atom takes one step. -/
theorem skips_atom {w : Written} {c : Char} {t : Input} (htokens : w.tokens = [.char c :: t])
    (hlist : c ≠ '[') (hobject : c ≠ '{')
    (hatom : ∀ rest, EndsNumber rest → skipAtom (.char c :: (t ++ rest)) = .ok rest) : Skips w := by
  obtain ⟨c', t', ts, hstarts, hc⟩ := tokens_starts w
  obtain rfl : c = c' := by
    rw [htokens] at hstarts
    cases hstarts
    rfl
  refine ⟨1, ?_, fun opened more input h hends => ?_⟩
  · rw [htokens, List.length_singleton]
    omega
  rw [htokens] at h
  obtain ⟨rest, hskip, hrest⟩ := h.skipSpace_cons hc.1
  refine ⟨rest, hrest, fun n => ?_⟩
  rw [skipOn, hskip]
  simp [hatom rest (hrest.endsNumber hends), bind, Except.bind, hlist, hobject]

/-- The end of a container. -/
theorem skipOn_close {b : Bracket} {more : List Input} {input : Input}
    (h : Spaced (token [b.closing] :: more) input) (comma : Bool) (opened : List Bracket) :
    ∃ rest, Spaced more rest ∧ ∀ n,
      skipOn (n + 1) (.part comma) (b :: opened) input = skipOn n (.part true) opened rest := by
  have hspace : isSpace (.char b.closing) = false := by cases b <;> rfl
  have hcomma : b.closing ≠ ',' := by cases b <;> decide
  obtain ⟨rest, hskip, hrest⟩ := h.skipSpace_mark hspace
  refine ⟨rest, hrest, fun n => ?_⟩
  rw [skipOn, hskip]
  simp [hcomma]

/-- A comma, and a part behind it. -/
theorem skipOn_comma {b : Bracket} {ts : List Input} {input : Input}
    (h : Spaced (token [','] :: ts) input) (opened : List Bracket) :
    ∃ behind, Spaced ts behind ∧ ∀ n, skipOn (n + 1) (.part true) (b :: opened) input =
      skipName b behind >>= fun rest => skipOn n .value (b :: opened) rest := by
  obtain ⟨behind, hskip, hbehind⟩ := h.skipSpace_mark (by decide)
  refine ⟨behind, hbehind, fun n => ?_⟩
  rw [skipOn, hskip]
  simp

/-- The first part. -/
theorem skipOn_first {b : Bracket} {c : Char} {t : Input} {ts : List Input} {input : Input}
    (h : Spaced ((.char c :: t) :: ts) input) (hc : Starts c) (opened : List Bracket) :
    ∃ next, Spaced ((.char c :: t) :: ts) next ∧
      ∀ n, skipOn (n + 1) (.part false) (b :: opened) input =
        skipName b next >>= fun rest => skipOn n .value (b :: opened) rest := by
  have hclose : c ≠ b.closing := by
    cases b with
    | list => exact hc.2.1
    | object => exact hc.2.2.2
  obtain ⟨rest, hskip, hrest⟩ := h.skipSpace_cons hc.1
  refine ⟨_, hrest.cons (.char c :: t), fun n => ?_⟩
  rw [skipOn, hskip]
  simp [hclose]

/-- The parts behind the first one, and the end. -/
theorem skipOn_moreParts {b : Bracket} {ps : List (List Input)} (hps : ∀ p ∈ ps, SkipsPart b p) :
    ∃ k < 2 * (moreParts b ps).length, ∀ (opened : List Bracket) (more : List Input)
      (input : Input), Spaced (moreParts b ps ++ more) input →
        ∃ rest, Spaced more rest ∧
          ∀ n, skipOn (n + k) (.part true) (b :: opened) input =
            skipOn n (.part true) opened rest := by
  induction ps with
  | nil =>
    have hone : 1 < 2 * (moreParts b []).length := by
      rw [moreParts, List.length_singleton]
      omega
    exact ⟨1, hone, fun opened more input h => skipOn_close h true opened⟩
  | cons p ps ih =>
    obtain ⟨⟨-, kp, hkp, hp⟩, hps⟩ := List.forall_mem_cons.1 hps
    obtain ⟨k, hk, hmore⟩ := ih hps
    refine ⟨k + kp + 1, ?_, fun opened more input h => ?_⟩
    · simp only [moreParts, List.length_cons, List.length_append]
      omega
    · rw [moreParts, List.cons_append, List.append_assoc] at h
      obtain ⟨behind, h, hcomma⟩ := skipOn_comma (b := b) h opened
      obtain ⟨rest, h, hpart⟩ := hp opened _ _ h (ends_moreParts b ps more)
      obtain ⟨left, h, hrest⟩ := hmore opened more rest h
      exact ⟨left, h, fun n => by rw [← Nat.add_assoc, ← Nat.add_assoc, hcomma, hpart, hrest]⟩

/-- A container is passed over if its parts are. -/
theorem skips_container {w : Written} {b : Bracket} {ps : List (List Input)}
    (htokens : w.tokens = token [b.opening] :: allParts b ps) (hps : ∀ p ∈ ps, SkipsPart b p) :
    Skips w := by
  have hspace : isSpace (.char b.opening) = false := by cases b <;> rfl
  have hopen (opened : List Bracket) {input rest : Input}
      (hskip : skipSpace input = .char b.opening :: rest) (n : Nat) :
      skipOn (n + 1) .value opened input = skipOn n (.part false) (b :: opened) rest := by
    rw [skipOn, hskip]
    cases b <;> rfl
  rw [Skips, htokens]
  cases ps with
  | nil =>
    refine ⟨2, ?_, fun opened more input h _ => ?_⟩
    · simp only [allParts, List.length_cons, List.length_nil]
      omega
    · obtain ⟨rest, hskip, h⟩ := Spaced.skipSpace_mark h hspace
      obtain ⟨left, h, hclose⟩ := skipOn_close h false opened
      exact ⟨left, h, fun n => by rw [← hclose, ← hopen opened hskip]⟩
  | cons p ps =>
    obtain ⟨⟨⟨c, t, ts, hp, hc⟩, kp, hkp, hpart⟩, hps⟩ := List.forall_mem_cons.1 hps
    obtain ⟨k, hk, hmore⟩ := skipOn_moreParts hps
    refine ⟨k + kp + 1 + 1, ?_, fun opened more input h _ => ?_⟩
    · simp only [allParts, List.length_cons, List.length_append]
      omega
    · rw [allParts, List.cons_append, List.append_assoc] at h
      obtain ⟨rest, hskip, h⟩ := h.skipSpace_mark hspace
      rw [hp] at h
      obtain ⟨next, h, hfirst⟩ := skipOn_first (b := b) h hc opened
      have h : Spaced (p ++ (moreParts b ps ++ more)) next := by
        rw [hp]
        exact h
      obtain ⟨behind, h, hpart⟩ := hpart opened _ _ h (ends_moreParts b ps more)
      obtain ⟨left, h, hrest⟩ := hmore opened more behind h
      refine ⟨left, h, fun n => ?_⟩
      rw [← Nat.add_assoc, hopen opened hskip, ← Nat.add_assoc, hfirst, ← Nat.add_assoc, hpart,
        hrest]

/-! ## Values -/

/-- An item is a part of a list. -/
theorem skipsPart_list {w : Written} (h : Skips w) : SkipsPart .list w.tokens := by
  obtain ⟨k, hk, hskips⟩ := h
  refine ⟨tokens_starts w, k, hk, fun opened more input h hends => ?_⟩
  exact hskips (.list :: opened) more input h hends

/-- A name is passed over with its colon. -/
theorem Spaced.skipName {k : List Piece} {ts : List Input} {input : Input}
    (h : Spaced (quote k :: token [':'] :: ts) input) :
    ∃ rest, skipName .object input = .ok rest ∧ Spaced ts rest := by
  obtain ⟨behind, hskip, h⟩ := h.skipSpace_cons rfl
  obtain ⟨rest, hcolon, h⟩ := h.readColon
  refine ⟨rest, ?_, h⟩
  rw [Json.skipName, hskip]
  simp only [skipString_closed, bind, Except.bind, hcolon]

/-- A member is a part of an object. -/
theorem skipsPart_object {m : List Piece × Written} (h : Skips m.2) :
    SkipsPart .object (memberTokens m) := by
  obtain ⟨k, hk, hskips⟩ := h
  refine ⟨⟨_, _, _, rfl, by decide⟩, k, ?_, fun opened more input h hends => ?_⟩
  · simp only [memberTokens, List.length_cons]
    omega
  · obtain ⟨behind, hname, h⟩ := Spaced.skipName h
    obtain ⟨rest, h, hrest⟩ := hskips (.object :: opened) more behind h hends
    exact ⟨rest, h, fun n => by rw [hname]; exact hrest n⟩

/-- What starts with a digit is passed over as a number. -/
theorem skipAtom_of_isDigit {c : Char} (h : c.isDigit = true) (rest : Input) :
    skipAtom (.char c :: rest) = skipNumber (.char c :: rest) := by
  have hne {d : Char} := ne_of_isDigit (d := d) h
  have hletter : c ≠ 'n' ∧ c ≠ 't' ∧ c ≠ 'f' ∧ c ≠ '"' ∧ c ≠ '-' :=
    ⟨hne (by decide), hne (by decide), hne (by decide), hne (by decide), hne (by decide)⟩
  rw [skipAtom.eq_def]
  simp [hletter, digit?_of_isDigit h]

theorem skips_number (f : Figures) : Skips (.number f) := by
  obtain ⟨c, cs, hchars, hc⟩ := exists_chars_cons f
  have htokens : (Written.number f).tokens = [.char c :: cs.map .char] := by
    rw [Written.tokens, hchars]
    rfl
  rcases hc with ⟨-, rfl, rfl⟩ | ⟨-, hc, hcs⟩
  · exact skips_atom htokens (by decide) (by decide) fun rest hrest => skipNumber_unsigned f hrest
  · refine skips_atom htokens (ne_of_isDigit hc (by decide)) (ne_of_isDigit hc (by decide))
      fun rest hrest => ?_
    have hskip := skipNumber_unsigned f hrest
    rw [← hcs, List.map_cons, List.cons_append] at hskip
    rw [skipAtom_of_isDigit hc, hskip]

/-- **Every tree is passed over**, whatever it stands for and however deep it
is. -/
theorem skips (w : Written) : Skips w := by
  induction h : w.tokens.length using Nat.strongRecOn generalizing w with
  | ind n ih =>
    subst h
    cases w with
    | null => exact skips_atom rfl (by decide) (by decide) fun rest _ => rfl
    | bool b =>
      cases b with
      | true => exact skips_atom rfl (by decide) (by decide) fun rest _ => rfl
      | false => exact skips_atom rfl (by decide) (by decide) fun rest _ => rfl
    | number f => exact skips_number f
    | string ps =>
      exact skips_atom rfl (by decide) (by decide) fun rest _ => skipString_closed ps rest
    | array xs =>
      refine skips_container (tokens_array xs) (List.forall_mem_map.2 fun x hx => ?_)
      exact skipsPart_list (ih _ ((length_tokens_array xs).2 x hx) x rfl)
    | object ms =>
      refine skips_container (tokens_object ms) (List.forall_mem_map.2 fun m hm => ?_)
      exact skipsPart_object (ih _ ((length_tokens_object ms).2 m hm) m.2 rfl)

/-- So it is, whatever comes behind it. -/
theorem skipValue_spaced {w : Written} {bound : Nat} (hbound : w.tokens.length ≤ bound)
    {more : List Input} {input : Input} (h : Spaced (w.tokens ++ more) input) (hends : Ends more) :
    ∃ rest, skipValue bound input = .ok rest ∧ Spaced more rest := by
  obtain ⟨k, hk, hskips⟩ := skips w
  obtain ⟨rest, h, hrest⟩ := hskips [] more input h hends
  obtain ⟨n, hn⟩ : ∃ n, 2 * bound = n + 1 + k := ⟨2 * bound - 1 - k, by omega⟩
  refine ⟨rest, ?_, h⟩
  rw [skipValue, hn, hrest]
  rfl

end Json

end EventFeed
