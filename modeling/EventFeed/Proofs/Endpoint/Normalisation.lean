import EventFeed.Endpoint
import EventFeed.Proofs.Namespace.Grammar
import EventFeed.Proofs.Net.Ipv6

/-!
# EventFeed.Proofs.Endpoint.Normalisation

Which hosts an endpoint can have, and what becomes of them.

A host is accepted with or without brackets around it, and kept without them
(`Endpoint.of_eq_ok_iff`).  A host that is kept has none, so building an endpoint
again from what it keeps changes nothing.  In a URL the brackets stand around
IPv6 addresses only, and nothing else in front of the path can be taken for them,
so endpoints with one URL are one (`Endpoint.url_injective`).
-/

namespace EventFeed

/-- A row is divided in one way only at the last one of its members that are alike. -/
theorem append_cons_inj_of_not_mem {α : Type} {xs ys zs ws : List α} {c : α} (hzs : c ∉ zs)
    (hws : c ∉ ws) (h : xs ++ c :: zs = ys ++ c :: ws) : xs = ys ∧ zs = ws := by
  rcases List.append_eq_append_iff.1 h with ⟨as, hys, hzs'⟩ | ⟨as, hxs, hws'⟩
  · cases as with
    | nil => exact ⟨by rw [hys, List.append_nil], (List.cons.inj hzs').2⟩
    | cons a as => exact absurd (by rw [(List.cons.inj hzs').2]; simp) hzs
  · cases as with
    | nil => exact ⟨by rw [hxs, List.append_nil], (List.cons.inj hws').2.symm⟩
    | cons a as => exact absurd (by rw [(List.cons.inj hws').2]; simp) hws

namespace Endpoint

variable {host : String} {port : UInt16} {n : Namespace} {e e' : Endpoint} {s bare : List Char}

/-! ## Brackets -/

/-- A text without the brackets around it: one pair of them, if it has both. -/
inductive Bares : List Char → List Char → Prop
  | bracketed (s : List Char) : Bares ('[' :: (s ++ [']'])) s
  | plain {s : List Char} (h : ∀ inner, s ≠ '[' :: (inner ++ [']'])) : Bares s s

theorem bares_iff : Bares s bare ↔ withoutBrackets s = bare := by
  have hbracketed (s : List Char) : withoutBrackets ('[' :: (s ++ [']'])) = s := by
    simp [withoutBrackets]
  have hplain {s : List Char} (h : ∀ inner, s ≠ '[' :: (inner ++ [']'])) :
      withoutBrackets s = s := by
    rw [withoutBrackets.eq_def]
    split
    · split
      · next r hlast =>
        obtain ⟨inner, rfl⟩ := List.getLast?_eq_some_iff.1 hlast
        exact absurd rfl (h inner)
      · rfl
    · rfl
  constructor
  · intro h
    cases h with
    | bracketed => exact hbracketed bare
    | plain h => exact hplain h
  · rintro rfl
    by_cases h : ∃ inner, s = '[' :: (inner ++ [']'])
    · obtain ⟨inner, rfl⟩ := h
      rw [hbracketed]
      exact .bracketed inner
    · rw [hplain fun inner hs => h ⟨inner, hs⟩]
      exact .plain fun inner hs => h ⟨inner, hs⟩

/-! ## Hosts -/

/-- The texts that can be a host: not empty, without white space, slashes and
brackets, and without colons but for those of an IPv6 address. -/
def IsHostText (s : List Char) : Prop :=
  s ≠ [] ∧ (∀ c ∈ s, isBlank c = false ∧ c ≠ '/' ∧ c ≠ '[' ∧ c ≠ ']') ∧
    (':' ∉ s ∨ Ipv6.IsLiteral s)

theorem isHost_iff : IsHost s ↔ IsHostText s := by
  have hallowed (c : Char) : (!isForbidden c) = true ↔
      isBlank c = false ∧ c ≠ '/' ∧ c ≠ '[' ∧ c ≠ ']' := by
    simp [isForbidden, and_assoc]
  rw [IsHost, IsHostText, List.all_eq_true, Ipv6.isSome_ofText?_iff, imp_iff_not_or]
  simp only [hallowed]

/-- **An endpoint is accepted** if its host is one without the brackets around it,
and it is kept without them. -/
theorem of_eq_ok_iff : of host port n = .ok e ↔
    ∃ bare, Bares host.toList bare ∧ IsHostText bare ∧ e = ⟨String.ofList bare, port, n⟩ := by
  rw [of]
  constructor
  · intro h
    split at h
    · next hhost => exact ⟨_, bares_iff.2 rfl, isHost_iff.1 hhost, (Except.ok.inj h).symm⟩
    · cases h
  · rintro ⟨bare, hbare, hhost, rfl⟩
    obtain rfl := bares_iff.1 hbare
    exact if_pos (isHost_iff.2 hhost)

/-- The host of an endpoint that was accepted. -/
theorem isHostText_of (h : of host port n = .ok e) : IsHostText e.host.toList := by
  obtain ⟨bare, -, hhost, rfl⟩ := of_eq_ok_iff.1 h
  rwa [String.toList_ofList]

/-- A host has no brackets around it. -/
theorem IsHostText.bares (h : IsHostText s) : Bares s s := by
  refine .plain fun inner hs => ?_
  have hbracket := (h.2.1 '[' (hs ▸ List.mem_cons_self)).2.2.1
  exact hbracket rfl

theorem of_host (h : IsHostText e.host.toList) : of e.host e.port e.channel = .ok e :=
  of_eq_ok_iff.2 ⟨_, h.bares, h, by rw [String.ofList_toList]⟩

theorem of_bracketed (h : IsHostText e.host.toList) :
    of ("[" ++ e.host ++ "]") e.port e.channel = .ok e := by
  refine of_eq_ok_iff.2 ⟨e.host.toList, ?_, h, by rw [String.ofList_toList]⟩
  have hsplit : ("[" ++ e.host ++ "]").toList = '[' :: (e.host.toList ++ [']']) := by simp
  rw [hsplit]
  exact .bracketed _

/-! ## URLs -/

/-- The host of a URL is in brackets if it is an IPv6 address. -/
theorem toList_authorityHost (h : IsHostText e.host.toList) :
    (Ipv6.IsLiteral e.host.toList ∧ e.authorityHost.toList = '[' :: (e.host.toList ++ [']'])) ∨
      (¬ Ipv6.IsLiteral e.host.toList ∧ ':' ∉ e.host.toList ∧ e.authorityHost = e.host) := by
  rw [authorityHost]
  rcases h.2.2 with hcolon | hliteral
  · exact .inr ⟨fun hliteral => hcolon hliteral.colon_mem, hcolon, if_neg hcolon⟩
  · refine .inl ⟨hliteral, ?_⟩
    rw [if_pos hliteral.colon_mem]
    simp

/-- A plain host does not start like one in brackets. -/
theorem plain_ne_bracketed (h : IsHostText s) (rest : List Char) : s ≠ '[' :: rest := by
  rintro rfl
  exact (h.2.1 '[' List.mem_cons_self).2.2.1 rfl

/-- Hosts that stand alike in URLs are alike. -/
theorem host_eq_of_authorityHost (h : IsHostText e.host.toList) (h' : IsHostText e'.host.toList)
    (hsame : e.authorityHost.toList = e'.authorityHost.toList) : e.host = e'.host := by
  refine String.toList_inj.1 ?_
  rcases toList_authorityHost h with ⟨-, hhost⟩ | ⟨-, -, hhost⟩
  · rcases toList_authorityHost h' with ⟨-, hhost'⟩ | ⟨-, -, hhost'⟩
    · rw [hhost, hhost'] at hsame
      exact List.append_cancel_right (List.cons.inj hsame).2
    · rw [hhost, hhost'] at hsame
      exact absurd hsame.symm (plain_ne_bracketed h' _)
  · rcases toList_authorityHost h' with ⟨-, hhost'⟩ | ⟨-, -, hhost'⟩
    · rw [hhost, hhost'] at hsame
      exact absurd hsame (plain_ne_bracketed h _)
    · rw [← hhost, ← hhost', hsame]

/-- **Endpoints with one URL are one.** -/
theorem url_injective (h : IsHostText e.host.toList) (h' : IsHostText e'.host.toList)
    (hurl : e.url = e'.url) : e = e' := by
  have hchars := congrArg String.toList hurl
  rw [toList_url, toList_url] at hchars
  have hslash (n : Namespace) : '/' ∉ n.segment.toList := fun hc => (n.plain '/' hc).1 rfl
  have hcolon (p : UInt16) : ':' ∉ Nat.toDigits 10 p.toNat := not_mem_toDigits (by decide) _
  obtain ⟨hauthority, hsegment⟩ := append_cons_inj_of_not_mem (hslash _) (hslash _)
    (List.append_cancel_left hchars)
  obtain ⟨hhost, hdigits⟩ := append_cons_inj_of_not_mem (hcolon _) (hcolon _) hauthority
  have hport : e.port = e'.port := by
    rw [← UInt16.toNat_inj, ← Nat.ofDigitChars_ten_toDigits (n := e.port.toNat), hdigits,
      Nat.ofDigitChars_ten_toDigits]
  have hchannel : e.channel = e'.channel := by
    have hpath : e.channel.path = e'.channel.path := by
      rw [Namespace.path, Namespace.path, String.toList_inj.1 hsegment]
    exact Except.ok.inj (by rw [← Namespace.parse_path e.channel, hpath, Namespace.parse_path])
  obtain ⟨host, port, channel⟩ := e
  obtain ⟨host', port', channel'⟩ := e'
  cases host_eq_of_authorityHost h h' hhost
  cases hport
  cases hchannel
  rfl

/-- The URL has a bracket behind its scheme if and only if the host is an IPv6
address. -/
theorem url_bracketed_iff (h : IsHostText e.host.toList) :
    (∃ rest, e.url.toList = "ws://[".toList ++ rest) ↔ Ipv6.IsLiteral e.host.toList := by
  rw [toList_url]
  rcases toList_authorityHost h with ⟨hliteral, hhost⟩ | ⟨hno, -, hhost⟩
  · refine iff_of_true ?_ hliteral
    rw [hhost]
    exact ⟨_, rfl⟩
  · refine iff_of_false (fun ⟨rest, hrest⟩ => ?_) hno
    have hstart : e.authorityHost.toList ++ ':' :: Nat.toDigits 10 e.port.toNat ++
        '/' :: e.channel.segment.toList = '[' :: rest := List.append_cancel_left hrest
    rw [hhost, List.append_assoc] at hstart
    obtain ⟨c, cs, hcs⟩ := List.exists_cons_of_ne_nil h.1
    rw [hcs] at hstart
    obtain rfl : c = '[' := (List.cons.inj hstart).1
    exact plain_ne_bracketed h cs hcs

/-- **Endpoints are normal forms of what they are built from.**

A host is accepted if and only if what is left of it without one pair of brackets
around it, if it has both, is not empty, has no white space, slash or bracket, and
has no colon unless it is an IPv6 address.  This is the host that is kept; building
an endpoint again from it, bare or in brackets, gives the same endpoint.  Accepted
endpoints with one URL are one, and a URL has its host in brackets if and only if
the host is an IPv6 address. -/
theorem normalisation (host : String) (port : UInt16) (n : Namespace) :
    ((∃ e, of host port n = .ok e) ↔ ∃ bare, Bares host.toList bare ∧ bare ≠ [] ∧
      (∀ c ∈ bare, isBlank c = false ∧ c ≠ '/' ∧ c ≠ '[' ∧ c ≠ ']') ∧
      (':' ∉ bare ∨ Ipv6.IsLiteral bare)) ∧
    ∀ e, of host port n = .ok e →
      (Bares host.toList e.host.toList ∧ e.port = port ∧ e.channel = n) ∧
      of e.host e.port e.channel = .ok e ∧
      of ("[" ++ e.host ++ "]") e.port e.channel = .ok e ∧
      (∀ host' port' n' e', of host' port' n' = .ok e' → e'.url = e.url → e' = e) ∧
      ((∃ rest, e.url.toList = "ws://[".toList ++ rest) ↔ Ipv6.IsLiteral e.host.toList) := by
  refine ⟨⟨?_, ?_⟩, fun e h => ?_⟩
  · rintro ⟨e, h⟩
    obtain ⟨bare, hbare, hhost, -⟩ := of_eq_ok_iff.1 h
    exact ⟨bare, hbare, hhost⟩
  · rintro ⟨bare, hbare, hhost⟩
    exact ⟨_, of_eq_ok_iff.2 ⟨bare, hbare, hhost, rfl⟩⟩
  · have hhost := isHostText_of h
    refine ⟨?_, of_host hhost, of_bracketed hhost,
      fun _ _ _ _ h' hurl => url_injective (isHostText_of h') hhost hurl, url_bracketed_iff hhost⟩
    obtain ⟨bare, hbare, -, rfl⟩ := of_eq_ok_iff.1 h
    rw [String.toList_ofList]
    exact ⟨hbare, rfl, rfl⟩

/-- The loopback address in brackets is accepted, is kept bare, and shows in brackets
again. -/
theorem normalisation_of_loopback :
    of "[::1]" 5000 .standard = .ok ⟨"::1", 5000, .standard⟩ ∧
      of "::1" 5000 .standard = .ok ⟨"::1", 5000, .standard⟩ ∧
      Ipv6.IsLiteral "::1".toList := by
  have haccepted : of "[::1]" 5000 .standard = .ok ⟨"::1", 5000, .standard⟩ := by
    decide +kernel
  obtain ⟨-, hnormal⟩ := normalisation "[::1]" 5000 .standard
  obtain ⟨-, hbare, -, -, hliteral⟩ := hnormal _ haccepted
  exact ⟨haccepted, hbare, hliteral.1 ⟨"::1]:5000/test".toList, by decide +kernel⟩⟩

end Endpoint

end EventFeed
