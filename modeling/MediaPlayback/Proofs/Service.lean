import MediaPlayback.Proofs.Clock
import MediaPlayback.Proofs.Invariant

/-! What it takes to start a service. Settings that are accepted are within bounds. The bounds are
all that the clock needs, and half of what the bus needs: its size is bounded only from below. So a
service is started for an accepted configuration, and runs as it says, unless it asks for a larger
bus than there can be. Nothing is reported then: the start breaks down. -/

namespace MediaPlayback

/-- A check that refuses under a condition is passed exactly if it does not hold. -/
theorem refuse_eq_ok {ε : Type} {p : Prop} [Decidable p] {e : ε} {next : Except ε Unit} :
    (if p then .error e else next) = .ok () ↔ ¬ p ∧ next = .ok () := by
  split <;> simp [*]

namespace Duration

theorem not_isZero_iff {d : Duration} : ¬ d.isZero = true ↔ 0 < d.nanos := by
  rw [isZero, beq_iff_eq, Nat.pos_iff_ne_zero]

theorem not_lt_iff {a b : Duration} : ¬ a < b ↔ b ≤ a := Nat.not_lt

end Duration

namespace Settings

variable {s : Settings}

/-- The bounds of settings that are accepted. -/
structure InBounds (s : Settings) : Prop where
  debounce : s.backgroundDebounce ≤ .ofSeconds 10
  ticks : 0 < s.progressInterval.nanos
  interval : s.progressInterval ≤ .ofSeconds 60
  timeout : 0 < s.wakeLockTimeout.nanos
  buffer : 0 < s.eventBufferSize.toNat

theorem validate_eq_ok_iff : s.validate = .ok () ↔ s.InBounds := by
  have inhabited : ¬ s.eventBufferSize = 0 ↔ 0 < s.eventBufferSize.toNat := by
    rw [Nat.pos_iff_ne_zero]
    exact not_congr UInt64.toNat_inj.symm
  simp only [validate, refuse_eq_ok, Duration.not_isZero_iff, Duration.not_lt_iff, inhabited]
  constructor
  · rintro ⟨debounce, ticks, interval, timeout, buffer, -⟩
    exact ⟨debounce, ticks, interval, timeout, buffer⟩
  · rintro ⟨debounce, ticks, interval, timeout, buffer⟩
    exact ⟨debounce, ticks, interval, timeout, buffer, trivial⟩

/-- The settings that hold where none are given are accepted. -/
theorem inBounds_default : ({} : Settings).InBounds := validate_eq_ok_iff.mp rfl

end Settings

theorem Bus.create?_eq {α : Type} {capacity : Nat} (positive : 0 < capacity) :
    (create? capacity : Option (Bus α)) =
      if capacity ≤ maxCapacity then some { capacity := capacity.nextPowerOfTwo } else none := by
  unfold create?
  by_cases fits : capacity ≤ maxCapacity
  · rw [if_pos fits, if_neg]
    omega
  · rw [if_neg fits, if_pos (.inr (Nat.lt_of_not_le fits))]

namespace Settings

variable {s : Settings}

/-- The parts of a service with these settings. -/
def made (s : Settings) : ServiceParts :=
  ⟨{ capacity := s.eventBufferSize.toNat.nextPowerOfTwo }, s.progressInterval⟩

/-- For settings within bounds only the bus can fail to be made. -/
theorem InBounds.parts (inBounds : s.InBounds) : s.parts =
    if s.eventBufferSize.toNat ≤ Bus.maxCapacity then .ok s.made else .error .crashed := by
  have goes : s.progressInterval.isZero = false :=
    Bool.eq_false_iff.mpr (Duration.not_isZero_iff.mpr inBounds.ticks)
  unfold Settings.parts
  rw [Bus.create?_eq inBounds.buffer, goes]
  by_cases fits : s.eventBufferSize.toNat ≤ Bus.maxCapacity
  · rw [if_pos fits, if_pos fits]
    rfl
  · rw [if_neg fits, if_neg fits]

/-- What comes of the start of a service where timers run. -/
theorem startService_eq (s : Settings) : s.startService true = match s.validate with
    | .error e => .error (.refused (.config e))
    | .ok () =>
      if s.eventBufferSize.toNat ≤ Bus.maxCapacity then .ok s.made else .error .crashed := by
  unfold startService
  cases checked : s.validate with
  | error e => rfl
  | ok => exact (validate_eq_ok_iff.mp checked).parts

end Settings

/-- A step succeeds with what follows it exactly if both succeed. -/
theorem bind_eq_ok {ε α β : Type} {x : Except ε α} {f : α → Except ε β} {b : β} :
    x >>= f = .ok b ↔ ∃ a, x = .ok a ∧ f a = .ok b := by
  cases x <;> simp [bind, Except.bind]

/-- A configuration is built with the settings that it is built from, and only if they are
accepted. -/
theorem ConfigBuilder.settings_of_build {b : ConfigBuilder} {desktop : Bool} {config : Config}
    (built : b.build desktop = .ok config) :
    config.settings = b.settings ∧ b.settings.validate = .ok () := by
  unfold build at built
  dsimp only at built
  split at built
  case isTrue => contradiction
  case isFalse =>
    simp only [bind_eq_ok] at built
    obtain ⟨_, -, _, -, _, -, _, -, _, -, _, accepted, returned⟩ := built
    obtain rfl := Except.ok.inj returned
    exact ⟨rfl, accepted⟩

variable {σ L : Type}

namespace Config

variable (config : Config) (outside : σ) (catalog : Catalog)

theorem idleCore_blank : (config.idleCore outside catalog : Core σ L).Blank where
  absent := rfl
  mailbox := rfl
  flights := rfl
  settled := ⟨rfl, rfl⟩
  asides := by
    intro effect mem
    obtain rfl := List.mem_singleton.mp mem
    trivial

variable [Surroundings σ L]

/-- What comes of the start of a service where timers run. -/
theorem startService_eq : config.startService true outside catalog =
    match config.settings.validate with
    | .error e => .error (.refused (.config e))
    | .ok () =>
      if config.settings.eventBufferSize.toNat ≤ Bus.maxCapacity then
        .ok (config.serve config.settings.made outside catalog : Service σ L)
      else .error .crashed := by
  unfold startService
  rw [Settings.startService_eq]
  cases config.settings.validate with
  | error e => rfl
  | ok => exact apply_ite ..

end Config

/-- A service runs as its settings say. -/
structure Service.Runs [Surroundings σ L] (service : Service σ L) (s : Settings) : Prop where
  inBounds : s.InBounds
  /-- An engine was launched that nothing had happened to, and the signal follows the app state. -/
  launched : ∃ c : Core σ L, c.Blank ∧ c.world.settings = s ∧
    c.signal = { debounce := s.backgroundDebounce } ∧
    service.core = (c.launch s.progressInterval).act .attach
  running : service.core.phase = .running
  bus : service.bus = { capacity := s.eventBufferSize.toNat.nextPowerOfTwo }
  ticker : service.core.ticker = some ⟨s.progressInterval, s.progressInterval⟩
  /-- The clock beats at all multiples of the interval, as long as it goes. -/
  beats : ∀ actions, service.core.beats actions =
    (List.range' 1 (service.core.beats actions).length).map s.progressInterval.times

theorem Config.serve_runs [Surroundings σ L] {config : Config}
    (inBounds : config.settings.InBounds) (outside : σ) (catalog : Catalog) :
    Service.Runs (L := L) (config.serve config.settings.made outside catalog)
      config.settings := by
  let c : Core σ L := config.idleCore outside catalog
  let interval := config.settings.progressInterval
  have blank : c.Blank := config.idleCore_blank outside catalog
  have sound : (c.launch interval).Sound := .launch blank interval
  -- To follow the app state is no business of the engine's, nor of the clock's.
  have stays := Core.attach_stays sound.settled
  have paced : ((c.launch interval).act .attach).Paced .zero interval 0 :=
    (c.launch_paced interval).spares (.inl Core.attach_ticker)
  have first : c.now + interval = interval := interval.zero_add
  have set : (c.launch interval).ticker = some ⟨interval, interval⟩ := by
    rw [c.launch_ticker inBounds.ticks, first]
  refine ⟨inBounds, ⟨c, blank, rfl, rfl, rfl⟩, stays.phase, rfl, Core.attach_ticker.trans set,
    fun actions => ?_⟩
  have due := paced.beats actions
  simp only [Duration.zero_add] at due
  exact due

/-- Whatever is built is accepted. A service is started for an accepted configuration exactly if
there can be a bus as large as it asks for; if there cannot, the start breaks down and reports
nothing. A service that was started runs as its settings say. -/
theorem Config.starts_unless_oversized [Surroundings σ L] (config : Config) (outside : σ)
    (catalog : Catalog) :
    (∀ (b : ConfigBuilder) (desktop : Bool), b.build desktop = .ok config →
      config.settings.validate = .ok ()) ∧
    ((∃ service : Service σ L, config.startService true outside catalog = .ok service) ↔
      config.settings.validate = .ok () ∧
        config.settings.eventBufferSize.toNat ≤ Bus.maxCapacity) ∧
    ((config.startService true outside catalog : Except StartFailure (Service σ L)) =
        .error .crashed ↔
      config.settings.validate = .ok () ∧
        Bus.maxCapacity < config.settings.eventBufferSize.toNat) ∧
    ∀ service : Service σ L, config.startService true outside catalog = .ok service →
      service.Runs config.settings := by
  refine ⟨?_, ?_⟩
  · intro b desktop built
    obtain ⟨same, accepted⟩ := ConfigBuilder.settings_of_build built
    rw [same]
    exact accepted
  rw [config.startService_eq outside catalog]
  cases checked : config.settings.validate with
  | error e => simp
  | ok =>
    have runs : Service.Runs (L := L) (config.serve config.settings.made outside catalog)
        config.settings :=
      serve_runs (Settings.validate_eq_ok_iff.mp checked) outside catalog
    by_cases fits : config.settings.eventBufferSize.toNat ≤ Bus.maxCapacity
    · simp [fits, runs]
    · simp [fits, Nat.lt_of_not_le fits]

/-- A configuration for which the host provides everything but attachments. -/
def Config.hosted (settings : Settings) : Config where
  audioFocus := .host
  powerManager := .host
  notificationHost := .host
  lifecycleObserver := .host
  attachmentStore := none
  settings := settings

/-- All settings as high as they may be, and the bus as large as it can be. -/
def Settings.highest : Settings where
  backgroundDebounce := .ofSeconds 10
  progressInterval := .ofSeconds 60
  wakeLockTimeout := .ofParts 18446744073709551615 999999999
  eventBufferSize := 9223372036854775807
  notificationId := 4294967295

/-- The largest bus that there can be is started with. -/
theorem Config.starts_unless_oversized_highest : Settings.highest.validate = .ok () ∧
    ∃ service : Service Obliging Empty,
      (hosted .highest).startService true .host {} = .ok service ∧ service.Runs .highest := by
  have accepted : Settings.highest.validate = .ok () := rfl
  obtain ⟨-, starts, -, runs⟩ :=
    starts_unless_oversized (L := Empty) (hosted .highest) Obliging.host {}
  obtain ⟨service, started⟩ := starts.mpr ⟨accepted, by decide⟩
  exact ⟨accepted, service, started, runs service started⟩

/-- A bus for one event more is accepted, and cannot be made. -/
theorem Config.exists_accepted_unstarted :
    ¬ ∀ config : Config, config.settings.validate = .ok () →
      ∃ service : Service Obliging Empty, config.startService true .host {} = .ok service := by
  intro always
  obtain ⟨service, started⟩ := always (hosted { eventBufferSize := 9223372036854775808 }) rfl
  have crashed : ((hosted { eventBufferSize := 9223372036854775808 }).startService true .host {} :
      Except StartFailure (Service Obliging Empty)) = .error .crashed := rfl
  rw [crashed] at started
  contradiction

end MediaPlayback
