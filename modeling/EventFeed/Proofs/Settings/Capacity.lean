import EventFeed.Program.Basic
import EventFeed.Proofs.Gateway.Service
import EventFeed.Proofs.Settings.Fields

/-!
# EventFeed.Proofs.Settings.Capacity

Which settings the gateway can start with.

Any number that fits 64 bits is accepted as the capacity of the bus, but a bus cannot
have more slots than half of them can count.  So there are settings that can be loaded
and that no gateway can start with, and these are all: those with a capacity that is
set, and above `Bus.maxCapacity` (`Program.gateway_starts_iff`).
-/

namespace EventFeed

namespace GatewaySettings

variable {e : Environment} {settings : GatewaySettings}

theorem capacity_of_ofEnvironment (h : ofEnvironment e = .ok settings) :
    settings.capacity = e.number "EVENT_BUS_CAPACITY" 0xffffffffffffffff 1024 := by
  simp only [ofEnvironment] at h
  split at h
  · cases h
    rfl
  · cases h

/-- **A capacity is too large** if and only if it is set to a number that is, of those
that are accepted. -/
theorem maxCapacity_lt_iff (h : ofEnvironment e = .ok settings) :
    Bus.maxCapacity < settings.capacity ↔
      ∃ s n, e.text? "EVENT_BUS_CAPACITY" = some s ∧ IsUnsigned s.toList n ∧
        Bus.maxCapacity < n ∧ n ≤ 0xffffffffffffffff := by
  rw [capacity_of_ofEnvironment h]
  rcases e.number_cases "EVENT_BUS_CAPACITY" 0xffffffffffffffff 1024 with
    ⟨s, n, hs, hnumeral, hlimit, hnumber⟩ | ⟨hunset, hnumber⟩
  · rw [hnumber]
    refine ⟨fun hlarge => ⟨s, n, hs, hnumeral, hlarge, hlimit⟩, ?_⟩
    rintro ⟨s', n', hs', hnumeral', hlarge, -⟩
    obtain rfl := Option.some.inj (hs.symm.trans hs')
    rwa [hnumeral.unique hnumeral']
  · rw [hnumber]
    refine ⟨fun hlarge => absurd hlarge (by decide), ?_⟩
    rintro ⟨s, n, hs, hnumeral, -, hlimit⟩
    exact absurd hlimit (Nat.not_le.2 (hunset s n hs hnumeral))

end GatewaySettings

/-! ## Starting -/

theorem Gateway.State.start_of_le {capacity : Nat} (h : capacity ≤ Bus.maxCapacity) :
    start capacity = .ok ⟨⟨Channel.create (max capacity 1), []⟩, []⟩ := by
  rw [start, Bus.create, if_pos h]
  rfl

theorem Gateway.State.start_of_lt {capacity : Nat} (h : Bus.maxCapacity < capacity) :
    start capacity = .error .tooManySlots := by
  rw [start, Bus.create, if_neg (Nat.not_le.2 h)]
  rfl

namespace Program

open Gateway (State)

variable {env e : Environment} {file : Option (List UInt8)} {settings : GatewaySettings}

/-- **Which settings the gateway can start with.**

If its settings can be loaded, the gateway can be made if and only if their capacity is
at most `Bus.maxCapacity`, that is, unless the variable is set to a larger number that
is still accepted.  Its bus then has at least as many slots as the capacity and at least
one, and it starts wherever it can listen; else the program cannot go on. -/
theorem gateway_starts_iff (hload : env.load file = .ok e)
    (hsettings : GatewaySettings.ofEnvironment e = .ok settings) :
    ((∃ g, State.start settings.capacity = .ok g) ↔ settings.capacity ≤ Bus.maxCapacity) ∧
    (Bus.maxCapacity < settings.capacity ↔
      ∃ s n, e.text? "EVENT_BUS_CAPACITY" = some s ∧ IsUnsigned s.toList n ∧
        Bus.maxCapacity < n ∧ n ≤ 0xffffffffffffffff) ∧
    (∀ g, State.start settings.capacity = .ok g → settings.capacity ≤ g.bus.channel.slots ∧
      1 ≤ g.bus.channel.slots) ∧
    (∀ net files, settings.capacity ≤ Bus.maxCapacity →
      net.listen settings.listenAddress = .ok () → ∃ g, gateway net files env file = .ok g) ∧
    ∀ net files, Bus.maxCapacity < settings.capacity → gateway net files env file =
      .error (halted files BusError.tooManySlots.message) := by
  refine ⟨⟨?_, fun hle => ⟨_, State.start_of_le hle⟩⟩,
    GatewaySettings.maxCapacity_lt_iff hsettings, ?_, ?_, ?_⟩
  · rintro ⟨g, hstart⟩
    by_contra hlarge
    rw [State.start_of_lt (Nat.not_le.1 hlarge)] at hstart
    cases hstart
  · intro g hstart
    have hslots := Bus.slots_create (State.bus_of_start hstart).1
    have hroom := le_slotsFor (max settings.capacity 1)
    rw [hslots]
    exact ⟨(Nat.le_max_left _ _).trans hroom, (Nat.le_max_right _ _).trans hroom⟩
  · intro net files hle hlisten
    refine ⟨⟨⟨Channel.create (max settings.capacity 1), []⟩, []⟩, ?_⟩
    simp only [gateway, hload, hsettings, State.start_of_le hle, hlisten]
  · intro net files hlarge
    simp only [gateway, hload, hsettings, State.start_of_lt hlarge]

/-- The largest capacity that there is, from a file. -/
theorem gateway_starts_with_largest :
    let file := Utf8.encode "EVENT_BUS_CAPACITY=+9223372036854775807"
    let e : Environment := ⟨[("EVENT_BUS_CAPACITY", Utf8.encode "+9223372036854775807")]⟩
    let settings : GatewaySettings := ⟨.v4 ⟨0, 0, 0, 0⟩ 5000, 9223372036854775807⟩
    Environment.load ⟨[]⟩ (some file) = .ok e ∧ GatewaySettings.ofEnvironment e = .ok settings ∧
      (∃ g, State.start settings.capacity = .ok g ∧
        9223372036854775807 ≤ g.bus.channel.slots) ∧
      ∃ g, gateway (Network.isolated []) .empty ⟨[]⟩ (some file) = .ok g := by
  intro file e settings
  have hload : Environment.load ⟨[]⟩ (some file) = .ok e := by decide +kernel
  have hsettings : GatewaySettings.ofEnvironment e = .ok settings := by decide +kernel
  have hcapacity : settings.capacity ≤ Bus.maxCapacity := by decide
  obtain ⟨hstarts, -, hslots, hruns, -⟩ := gateway_starts_iff hload hsettings
  obtain ⟨g, hg⟩ := hstarts.2 hcapacity
  exact ⟨hload, hsettings, ⟨g, hg, (hslots g hg).1⟩, hruns _ _ hcapacity rfl⟩

/-- One more can be loaded, and no gateway can start with it. -/
theorem larger_capacity_loads_only :
    let env : Environment := ⟨[("EVENT_BUS_CAPACITY", Utf8.encode "9223372036854775808")]⟩
    ∃ settings : GatewaySettings, GatewaySettings.ofEnvironment env = .ok settings ∧
      settings.capacity = 9223372036854775808 ∧
      State.start settings.capacity = .error .tooManySlots := by
  intro env
  exact ⟨⟨.v4 ⟨0, 0, 0, 0⟩ 5000, 9223372036854775808⟩, by decide +kernel, rfl, rfl⟩

end Program

end EventFeed
