import Mathlib.Data.List.MinMax
import Touchpad.Foundation.Lists
import Touchpad.Probe.ContactCallback

/-!
# What the probe sums up

However the callbacks interleave, each call is counted once, the highest count of touches
is found, and each line of output is whole.
-/

namespace Touchpad.Probe

open Touchpad.Foundation

variable {actions : List Action} {final : Pool Shared Callback}

/-! ## The counters -/

def Callback.update (callback : Callback) : Raising :=
  match callback.stage with
  | .entered | .summing => .loading
  | .raising update => update
  | _ => .settled

/-- The callback is past the test of its arguments only with valid ones, and raises the
maximum to its count. -/
structure Callback.Sound (values : List Nat) (callback : Callback) : Prop where
  valid : callback.stage ≠ .entered → callback.stage ≠ .returned → callback.call.valid = true
  raised : callback.call.valid = true →
    callback.update.Sound values callback.call.candidate

def Callback.counted (callback : Callback) : Nat :=
  match callback.stage with
  | .entered => 0
  | _ => if callback.call.valid then 1 else 0

def Callback.refused (callback : Callback) : Nat :=
  match callback.stage with
  | .entered => 0
  | _ => if callback.call.valid then 0 else 1

def Callback.summed (callback : Callback) : Nat :=
  match callback.stage with
  | .entered | .summing => 0
  | _ => if callback.call.valid then callback.call.touchCount.toNat else 0

theorem sound_invariant : rules.Invariant (fun shared => Raising.Rises shared.maxTouches)
    fun shared callback => callback.Sound shared.maxTouches where
  fresh shared call := ⟨fun hentered => absurd rfl hentered, fun _ => trivial⟩
  act {index shared callback choice after next} hrises hsound hact := by
    obtain ⟨hcall, hmoves⟩ := moves_of_contactCallback hact
    obtain ⟨call, stage⟩ := callback
    obtain ⟨call', stage'⟩ := next
    obtain ⟨hvalid, hraised⟩ := hsound
    dsimp only at hcall hmoves hvalid hraised
    subst hcall
    cases hmoves with
    | counted hchecked =>
        exact ⟨hrises, ⟨fun _ _ => hchecked, fun _ => trivial⟩, fun _ hother => hother⟩
    | refused hrefused =>
        refine ⟨hrises, ⟨fun _ hreturned => absurd rfl hreturned, fun hchecked => ?_⟩,
          fun _ hother => hother⟩
        rw [hrefused] at hchecked
        cases hchecked
    | accessed hstep =>
        have hchecked := hvalid (by simp) (by simp)
        have hlater := Raising.step_sound hrises (hraised hchecked) hstep
        refine ⟨hlater.1, ⟨fun _ _ => hchecked, fun _ => hlater.2⟩, fun other hother => ?_⟩
        exact ⟨hother.valid, fun hchecked =>
          (hother.raised hchecked).extend (Raising.step_values hstep)⟩
    | released =>
        exact ⟨hrises, ⟨fun _ hreturned => absurd rfl hreturned, hraised⟩, fun _ hother => hother⟩
    | _ =>
        exact ⟨hrises, ⟨fun _ _ => hvalid (by simp) (by simp), hraised⟩, fun _ hother => hother⟩

abbrev AllSound : Pool Shared Callback → Prop :=
  PoolRules.Holds (fun shared => Raising.Rises shared.maxTouches)
    fun shared callback => callback.Sound shared.maxTouches

theorem started_sound : AllSound started :=
  ⟨Raising.Rises.single 0, by simp [started]⟩

theorem run_counter {counter : Shared → UInt64} {weight : Callback → Nat}
    (hstarted : counter {} = 0) (hfresh : ∀ call, weight { call } = 0)
    (hmoves : ∀ {index shared call stage choice after next},
      Callback.Sound shared.maxTouches { call, stage } →
      Moves index shared call stage choice after next →
        counter after + UInt64.ofNat (weight { call, stage }) =
          counter shared + UInt64.ofNat (weight { call, stage := next }))
    (hrun : runFrom rules.step started actions = some final) :
    counter final.shared = UInt64.ofNat (PoolRules.tally weight final.members) := by
  refine PoolRules.run_booked sound_invariant
    (fun shared total => counter shared = UInt64.ofNat total) weight hfresh ?_ started_sound
    (by simp [started, hstarted, PoolRules.tally]) hrun
  intro index shared callback choice after next hsound hact rest hbooked
  obtain ⟨hcall, hmove⟩ := moves_of_contactCallback hact
  obtain ⟨call, stage⟩ := callback
  obtain ⟨call', stage'⟩ := next
  dsimp only at hcall hmove
  subst hcall
  have hadded := hmoves hsound hmove
  rw [UInt64.ofNat_add] at hbooked
  rw [hbooked] at hadded
  rw [UInt64.ofNat_add]
  grind

theorem run_frameCount (hrun : runFrom rules.step started actions = some final) :
    final.shared.frameCount = UInt64.ofNat (PoolRules.tally Callback.counted final.members) := by
  refine run_counter rfl (fun _ => rfl) (fun hsound hmove => ?_) hrun
  cases hmove with
  | counted hvalid => simp [Callback.counted, hvalid]
  | refused hrefused => simp [Callback.counted, hrefused]
  | _ => simp [Callback.counted, hsound.valid]

theorem run_invalidFrameCount (hrun : runFrom rules.step started actions = some final) :
    final.shared.invalidFrameCount =
      UInt64.ofNat (PoolRules.tally Callback.refused final.members) := by
  refine run_counter rfl (fun _ => rfl) (fun hsound hmove => ?_) hrun
  cases hmove with
  | counted hvalid => simp [Callback.refused, hvalid]
  | refused hrefused => simp [Callback.refused, hrefused]
  | _ => simp [Callback.refused, hsound.valid]

theorem run_touchCount (hrun : runFrom rules.step started actions = some final) :
    final.shared.touchCount = UInt64.ofNat (PoolRules.tally Callback.summed final.members) := by
  refine run_counter rfl (fun _ => rfl) (fun hsound hmove => ?_) hrun
  cases hmove with
  | counted hvalid => simp [Callback.summed]
  | refused hrefused => simp [Callback.summed, hrefused]
  | summed => simp [Callback.summed, hsound.valid]
  | _ => simp [Callback.summed, hsound.valid]

/-! ## The highest count -/

theorem Call.count_le {call : Call} (h : call.valid = true) : call.touchCount.toNat ≤ 32 := by
  simp only [valid, Bool.not_eq_true', Bool.or_eq_false_iff, decide_eq_false_iff_not,
    UInt64.not_lt, UInt64.le_iff_toNat_le] at h
  exact h.1

theorem Call.candidate_eq {call : Call} (h : call.valid = true) :
    call.candidate = call.touchCount.toNat := by
  have hle := count_le h
  rw [candidate, UInt64.toNat_toUInt32]
  omega

def Stored (pool : Pool Shared Callback) : Prop :=
  ∀ value ∈ pool.shared.maxTouches, value = 0 ∨
    ∃ call ∈ pool.members.map Callback.call, call.valid = true ∧ call.candidate = value

theorem run_stored (hrun : runFrom rules.step started actions = some final) : Stored final := by
  refine (PoolRules.run_keeps (fun pool => AllSound pool ∧ Stored pool)
    (fun {pool action next} h hstep => ?_) ⟨started_sound, by simp [Stored, started]⟩ hrun).2
  obtain ⟨hholds, hstored⟩ := h
  refine ⟨sound_invariant.step hholds hstep, ?_⟩
  cases action with
  | joins entry =>
      cases hstep
      intro value hvalue
      exact (hstored value hvalue).imp_right fun ⟨call, hcall, hmeets⟩ =>
        ⟨call, by simpa using .inl (List.mem_map.mp hcall), hmeets⟩
  | acts index choice =>
      obtain ⟨before, ⟨call, stage⟩, after, ⟨call', stage'⟩, hmembers, -, hacted, hnext⟩ :=
        PoolRules.step_acts hstep
      obtain ⟨hcall, hmoves⟩ := moves_of_contactCallback hacted
      dsimp only at hcall hmoves
      subst hcall
      have hsame : next.members.map Callback.call = pool.members.map Callback.call := by
        simp [hmembers, hnext]
      have hvalid := (hholds.2 { call := call', stage } (by simp [hmembers])).valid
      rw [Stored, hsame]
      generalize next.shared = shared at hmoves
      cases hmoves with
      | accessed hupdate =>
          intro value hvalue
          rcases Raising.step_cases hupdate with ⟨-, -, rfl, -⟩ | ⟨-, rfl, -⟩ |
            ⟨-, -, -, -, rfl, -⟩
          · exact hstored value hvalue
          · exact hstored value hvalue
          · rcases List.mem_append.mp hvalue with hvalue | hvalue
            · exact hstored value hvalue
            · refine .inr ⟨call', by simp [hmembers], hvalid (by simp) (by simp), ?_⟩
              exact (List.mem_singleton.mp hvalue).symm
      | _ => exact hstored

/-! ## The output -/

def Callback.holds (callback : Callback) : Bool :=
  match callback.stage with
  | .opening | .writing _ => true
  | _ => false

def Callback.finished (callback : Callback) : Bool :=
  match callback.stage with
  | .returned => callback.call.valid
  | _ => false

def Callback.Wrote (callback : Callback) (part : List Written) : Prop :=
  match callback.stage with
  | .opening => part = []
  | .writing rest => ∃ now, part ++ rest = callback.call.line now
  | _ => False

/-- The lines of the callbacks that have finished, each at its time, and the part of a line
that the holder of the lock has written. -/
structure Printed (pool : Pool Shared Callback) (lines : List (Call × UInt64))
    (part : List Written) : Prop where
  finished : (lines.map Prod.fst).Perm
    ((pool.members.filter Callback.finished).map Callback.call)
  stdout : pool.shared.stdout = lines.flatMap (fun line => line.1.line line.2) ++ part
  free : pool.shared.locked = none → part = []
  holder : ∀ {index callback}, pool.shared.locked = some index →
    pool.members[index]? = some callback → callback.Wrote part

theorem hands {index : Nat} {shared after : Shared} {callback next : Callback} {choice : Choice}
    (hheld : callback.holds = true ↔ shared.locked = some index)
    (hact : rules.act index shared callback choice = some (after, next)) :
    PoolRules.Hands Callback.holds index shared.locked callback after.locked next := by
  obtain ⟨-, hmoves⟩ := moves_of_contactCallback hact
  obtain ⟨call, stage⟩ := callback
  obtain ⟨call', stage'⟩ := next
  dsimp only at hmoves
  cases hmoves with
  | took hfree => exact .inr (.inl ⟨hfree, rfl, rfl⟩)
  | released => exact .inr (.inr ⟨hheld.mp rfl, rfl, rfl⟩)
  | _ => exact .inl ⟨rfl, rfl⟩

theorem Printed.elsewhere {pool next : Pool Shared Callback} {before after : List Callback}
    {callback other : Callback} {lines : List (Call × UInt64)} {part : List Written}
    (h : Printed pool lines part) (hmembers : pool.members = before ++ callback :: after)
    (hnext : next.members = before ++ other :: after)
    (hstdout : next.shared.stdout = pool.shared.stdout)
    (hlocked : next.shared.locked = pool.shared.locked)
    (howns : callback.holds = true ↔ pool.shared.locked = some before.length)
    (hidle : callback.holds = false) (hfinished : callback.finished = false)
    (hother : other.finished = false) : Printed next lines part where
  finished := by
    have hlines := h.finished
    rw [hmembers] at hlines
    rw [hnext]
    simpa [hfinished, hother] using hlines
  stdout := hstdout.trans h.stdout
  free hnone := h.free (hlocked ▸ hnone)
  holder {index who} howner hwho := by
    rw [hlocked] at howner
    refine h.holder howner ?_
    have hne : index ≠ before.length := by
      rintro rfl
      rw [howns.mpr howner] at hidle
      cases hidle
    rw [hnext] at hwho
    rw [hmembers, ← hwho]
    simp only [List.getElem?_append, List.getElem?_cons]
    grind

theorem Printed.holding {pool next : Pool Shared Callback} {before after : List Callback}
    {callback other : Callback} {lines : List (Call × UInt64)} {part more : List Written}
    (h : Printed pool lines part) (hmembers : pool.members = before ++ callback :: after)
    (hnext : next.members = before ++ other :: after)
    (hstdout : next.shared.stdout = pool.shared.stdout ++ more)
    (hlocked : next.shared.locked = some before.length) (hwrote : other.Wrote (part ++ more))
    (hfinished : callback.finished = false) (hother : other.finished = false) :
    Printed next lines (part ++ more) where
  finished := by
    have hlines := h.finished
    rw [hmembers] at hlines
    rw [hnext]
    simpa [hfinished, hother] using hlines
  stdout := by rw [hstdout, h.stdout, List.append_assoc]
  free hnone := by
    rw [hlocked] at hnone
    cases hnone
  holder {index who} howner hwho := by
    rw [hlocked] at howner
    cases howner
    rw [hnext] at hwho
    obtain rfl : other = who := by simpa using hwho
    exact hwrote

theorem Printed.acts {pool next : Pool Shared Callback} {lines : List (Call × UInt64)}
    {part : List Written} (h : Printed pool lines part)
    (hheld : PoolRules.HeldBy Callback.holds pool.members pool.shared.locked)
    (hvalid : ∀ callback ∈ pool.members, callback.stage ≠ .entered →
      callback.stage ≠ .returned → callback.call.valid = true)
    {index : Nat} {choice : Choice} (hstep : rules.step pool (.acts index choice) = some next) :
    ∃ lines part, Printed next lines part := by
  obtain ⟨before, callback, after, other, hmembers, rfl, hacted, hnext⟩ :=
    PoolRules.step_acts hstep
  obtain ⟨hcall, hmoves⟩ := moves_of_contactCallback hacted
  have hat : pool.members[before.length]? = some callback := by simp [hmembers]
  have howns := hheld.held hat
  have hchecked := hvalid callback (by simp [hmembers])
  have hpart := fun howner => h.holder howner hat
  obtain ⟨call, stage⟩ := callback
  obtain ⟨call', stage'⟩ := other
  dsimp only at hcall hmoves hchecked
  subst hcall
  obtain ⟨shared, members⟩ := next
  dsimp only at hmoves hnext
  cases hmoves with
  | counted hcounted =>
      exact ⟨lines, part, h.elsewhere hmembers hnext rfl rfl howns rfl rfl rfl⟩
  | refused hrefused =>
      exact ⟨lines, part, h.elsewhere hmembers hnext rfl rfl howns rfl rfl hrefused⟩
  | summed =>
      exact ⟨lines, part, h.elsewhere hmembers hnext rfl rfl howns rfl rfl rfl⟩
  | accessed hupdate =>
      exact ⟨lines, part, h.elsewhere hmembers hnext rfl rfl howns rfl rfl rfl⟩
  | took hfree =>
      obtain rfl := h.free hfree
      exact ⟨lines, _, h.holding hmembers hnext (List.append_nil _).symm rfl rfl rfl rfl⟩
  | opened now =>
      obtain rfl := hpart (howns.mp rfl)
      exact ⟨lines, _, h.holding hmembers hnext rfl (howns.mp rfl) ⟨now, rfl⟩ rfl rfl⟩
  | wrote item rest =>
      obtain ⟨now, hline⟩ := hpart (howns.mp rfl)
      refine ⟨lines, _, h.holding hmembers hnext rfl (howns.mp rfl) ⟨now, ?_⟩ rfl rfl⟩
      rw [List.append_assoc]
      exact hline
  | released =>
      obtain ⟨now, hline⟩ := hpart (howns.mp rfl)
      refine ⟨lines ++ [(call', now)], [], ?_, ?_, fun _ => rfl, fun howner => by cases howner⟩
      · have hlines := h.finished
        rw [hmembers] at hlines
        have hunfinished : Callback.finished { call := call', stage := .writing [] } = false := rfl
        have hdone : Callback.finished { call := call', stage := .returned } = true :=
          hchecked (by simp) (by simp)
        rw [hnext]
        simp only [List.filter_append, List.filter_cons, hunfinished, hdone, List.map_append,
          List.map_cons, List.map_nil, if_true, Bool.false_eq_true, if_false] at hlines ⊢
        refine (hlines.append_right _).trans ?_
        rw [List.append_assoc]
        exact (List.perm_append_singleton _ _).append_left _
      · rw [List.append_nil] at hline
        rw [List.flatMap_append, h.stdout, hline]
        simp

theorem run_printed (hrun : runFrom rules.step started actions = some final) :
    PoolRules.HeldBy Callback.holds final.members final.shared.locked ∧
      ∃ lines part, Printed final lines part := by
  refine (PoolRules.run_keeps (fun pool => AllSound pool ∧
    PoolRules.HeldBy Callback.holds pool.members pool.shared.locked ∧
      ∃ lines part, Printed pool lines part) (fun {pool action next} h hstep => ?_) ?_ hrun).2
  · obtain ⟨hsound, hheld, lines, part, hprinted⟩ := h
    refine ⟨sound_invariant.step hsound hstep, hheld.step (fun _ => rfl) hands hstep, ?_⟩
    cases action with
    | joins call =>
        cases hstep
        refine ⟨lines, part, ?_, hprinted.stdout, hprinted.free, fun howner hwho => ?_⟩
        · simpa [Callback.finished, rules] using hprinted.finished
        · rw [List.getElem?_append_left (hheld.inside howner)] at hwho
          exact hprinted.holder howner hwho
    | acts index choice =>
        exact hprinted.acts hheld (fun callback hcallback => (hsound.2 callback hcallback).valid)
          hstep
  · exact ⟨started_sound, ⟨fun hnone => (by cases hnone), fun hwho => (by cases hwho)⟩,
      [], [], List.Perm.nil, rfl, fun _ => rfl, fun hnone => by cases hnone⟩

/-! ## Once the calls have returned -/

theorem tally_returned {members : List Callback}
    (hreturned : ∀ callback ∈ members, callback.stage = .returned) {weight : Callback → Nat}
    (keep : Call → Bool) (ofCall : Call → Nat)
    (hweight : ∀ call, weight { call, stage := .returned } = if keep call then ofCall call else 0) :
    PoolRules.tally weight members =
      (((members.map Callback.call).filter keep).map ofCall).sum := by
  rw [← sum_filter, PoolRules.tally, List.map_map]
  congr 1
  apply List.map_congr_left
  rintro ⟨call, stage⟩ hmember
  obtain rfl : stage = .returned := hreturned _ hmember
  exact hweight call

theorem highest_of_returned (hrun : runFrom rules.step started actions = some final)
    (hreturned : ∀ callback ∈ final.members, callback.stage = .returned) :
    final.shared.maxTouches.getLast? =
      some ((((final.members.map Callback.call).filter Call.valid).map
        fun call => call.touchCount.toNat).foldr max 0) := by
  obtain ⟨hrises, hsound⟩ := sound_invariant.run started_sound hrun
  have hstored := run_stored hrun
  obtain ⟨highest, hhighest⟩ : ∃ highest, final.shared.maxTouches.getLast? = some highest :=
    ⟨_, List.getLast?_eq_some_getLast hrises.nonempty⟩
  rw [hhighest]
  congr 1
  apply le_antisymm
  · rcases hstored highest (List.mem_of_getLast? hhighest) with rfl | ⟨call, hcall, hvalid, rfl⟩
    · exact Nat.zero_le _
    · refine List.le_max_of_le' 0 (List.mem_map_of_mem (List.mem_filter.mpr ⟨hcall, hvalid⟩)) ?_
      exact (Call.candidate_eq hvalid).le
  · apply List.max_le_of_forall_le
    intro count hcount
    obtain ⟨call, hfilter, rfl⟩ := List.mem_map.mp hcount
    obtain ⟨hcall, hvalid⟩ := List.mem_filter.mp hfilter
    obtain ⟨⟨call, stage⟩, hcallback, rfl⟩ := List.mem_map.mp hcall
    obtain rfl : stage = .returned := hreturned _ hcallback
    dsimp only at hvalid ⊢
    rw [← Call.candidate_eq hvalid]
    exact ((hsound _ hcallback).raised hvalid).le_last hrises hhighest

/-- Once the calls have returned, the counters tell how many there were, which were invalid
and how many touches there were in all and at most, and the output has one whole line for
each valid call, whatever the order of their accesses. -/
theorem probe_sums_up (hrun : runFrom rules.step started actions = some final)
    (hreturned : ∀ callback ∈ final.members, callback.stage = .returned) :
    let calls := actions.filterMap PoolAction.entry?
    let counts := (calls.filter Call.valid).map fun call => call.touchCount.toNat
    final.shared.frameCount = UInt64.ofNat counts.length ∧
      final.shared.touchCount = UInt64.ofNat counts.sum ∧
      final.shared.invalidFrameCount = UInt64.ofNat (calls.countP fun call => !call.valid) ∧
      final.shared.maxTouches.getLast? = some (counts.foldr max 0) ∧
      ∃ lines : List (Call × UInt64), (lines.map Prod.fst).Perm (calls.filter Call.valid) ∧
        final.shared.stdout = lines.flatMap fun line => line.1.line line.2 := by
  intro calls counts
  have hcalls : final.members.map Callback.call = calls :=
    PoolRules.run_entries (fun _ => rfl) (fun hact => (moves_of_contactCallback hact).1) hrun
  have hcounts : ((final.members.map Callback.call).filter Call.valid).map
      (fun call => call.touchCount.toNat) = counts := by rw [hcalls]
  refine ⟨?_, ?_, ?_, ?_, ?_⟩
  · rw [run_frameCount hrun, tally_returned hreturned Call.valid (fun _ => 1) fun _ => rfl, hcalls]
    simp [counts]
  · rw [run_touchCount hrun,
      tally_returned hreturned Call.valid (fun call => call.touchCount.toNat) fun _ => rfl, hcounts]
  · have hrefused : ∀ call, Callback.refused { call, stage := .returned } =
        if !call.valid then 1 else 0 := fun call => by
      cases hvalid : call.valid <;> simp [Callback.refused, hvalid]
    rw [run_invalidFrameCount hrun,
      tally_returned hreturned (fun call => !call.valid) (fun _ => 1) hrefused, hcalls]
    simp [List.countP_eq_length_filter]
  · rw [highest_of_returned hrun hreturned, hcounts]
  · obtain ⟨hheld, lines, part, hprinted⟩ := run_printed hrun
    have hfree : final.shared.locked = none := by
      cases hlocked : final.shared.locked with
      | none => rfl
      | some index =>
          have hat := List.getElem?_eq_getElem (hheld.inside hlocked)
          have hholds := (hheld.held hat).mpr hlocked
          rw [Callback.holds, hreturned _ (List.getElem_mem _)] at hholds
          cases hholds
    obtain rfl := hprinted.free hfree
    refine ⟨lines, ?_, by simpa using hprinted.stdout⟩
    have hfinished : final.members.filter Callback.finished =
        final.members.filter (Call.valid ∘ Callback.call) := by
      apply List.filter_congr
      rintro ⟨call, stage⟩ hcallback
      obtain rfl : stage = .returned := hreturned _ hcallback
      rfl
    rw [← hcalls, List.filter_map, ← hfinished]
    exact hprinted.finished

def threeCalls : List Action :=
  [.joins { touches := some fun _ => {}, touchCount := 1 },
    .joins { touches := some fun _ => {}, touchCount := 2 }, .joins { touchCount := 33 },
    .acts 0 .goes, .acts 1 .goes, .acts 2 .goes, .acts 0 .goes, .acts 1 .goes,
    .acts 0 (.accesses (.sees 0)), .acts 1 (.accesses (.sees 0)),
    .acts 0 (.accesses .exchanges), .acts 1 (.accesses (.sees 1)),
    .acts 1 (.accesses .repeats), .acts 1 (.accesses .exchanges),
    .acts 1 .goes, .acts 1 (.draws 7), .acts 1 .goes, .acts 1 .goes, .acts 1 .goes,
    .acts 1 .goes, .acts 1 .goes, .acts 0 .goes, .acts 0 (.draws 9), .acts 0 .goes,
    .acts 0 .goes, .acts 0 .goes]

def Callback.hasReturned (callback : Callback) : Bool :=
  match callback.stage with
  | .returned => true
  | _ => false

theorem threeCalls_return : ∃ final, runFrom rules.step started threeCalls = some final ∧
    ∀ callback ∈ final.members, callback.stage = .returned := by
  have hall : (runFrom rules.step started threeCalls).map
      (fun final => final.members.all Callback.hasReturned) = some true := by decide
  obtain ⟨final, hrun, hreturned⟩ := Option.map_eq_some_iff.mp hall
  refine ⟨final, hrun, fun callback hcallback => ?_⟩
  have hthis := List.all_eq_true.mp hreturned callback hcallback
  obtain ⟨call, stage⟩ := callback
  cases stage with
  | returned => rfl
  | _ => cases hthis

theorem probe_sums_up_three_calls : ∃ final, runFrom rules.step started threeCalls = some final ∧
    final.shared.frameCount = 2 ∧ final.shared.touchCount = 3 ∧
    final.shared.invalidFrameCount = 1 ∧ final.shared.maxTouches.getLast? = some 2 := by
  obtain ⟨final, hrun, hreturned⟩ := threeCalls_return
  obtain ⟨hframes, htouches, hinvalid, hmax, -⟩ := probe_sums_up hrun hreturned
  exact ⟨final, hrun, hframes, htouches, hinvalid, hmax⟩

/-! ## How long an update takes -/

def accessedBy (index : Nat) : Action → Bool
  | .acts other (.accesses access) => decide (other = index ∧ access ≠ .repeats)
  | _ => false

def accessesLeft (index : Nat) (pool : Pool Shared Callback) : Nat :=
  match pool.members[index]? with
  | none => 33
  | some callback =>
      if callback.call.valid then
        callback.update.rank pool.shared.maxTouches callback.call.candidate
      else 0

theorem accessesLeft_at {index : Nat} {pool : Pool Shared Callback} {callback : Callback}
    (h : pool.members[index]? = some callback) :
    accessesLeft index pool = if callback.call.valid then
      callback.update.rank pool.shared.maxTouches callback.call.candidate else 0 := by
  rw [accessesLeft, h]

theorem accessesLeft_self {pool next : Pool Shared Callback} {before after : List Callback}
    {callback other : Callback} {choice : Choice}
    (hrises : Raising.Rises pool.shared.maxTouches)
    (hsound : callback.Sound pool.shared.maxTouches)
    (hmembers : pool.members = before ++ callback :: after)
    (hnext : next.members = before ++ other :: after)
    (hact : rules.act before.length pool.shared callback choice = some (next.shared, other)) :
    accessesLeft before.length next +
        (if accessedBy before.length (.acts before.length choice) then 1 else 0) ≤
      accessesLeft before.length pool := by
  have hat : pool.members[before.length]? = some callback := by simp [hmembers]
  have hafter : next.members[before.length]? = some other := by simp [hnext]
  rw [accessesLeft_at hat, accessesLeft_at hafter]
  obtain ⟨hcall, hmoves⟩ := moves_of_contactCallback hact
  obtain ⟨call, stage⟩ := callback
  obtain ⟨call', stage'⟩ := other
  dsimp only at hcall hmoves
  subst hcall
  generalize next.shared = shared at hmoves
  cases hmoves with
  | accessed hupdate =>
      have hvalid := hsound.valid (by simp) (by simp)
      have hlower := Raising.rank_step hrises (hsound.raised hvalid) hupdate
      dsimp only at hvalid
      simp only [hvalid, if_true, accessedBy, Callback.update, true_and] at hlower ⊢
      grind
  | counted hcounted => simp [hcounted, accessedBy, Callback.update, Raising.rank]
  | refused hrefused => simp [hrefused, accessedBy]
  | _ => simp [accessedBy, Callback.update, Raising.rank]

theorem Moves.maxTouches {index : Nat} {shared after : Shared} {call : Call}
    {stage next : Stage} {choice : Choice} (h : Moves index shared call stage choice after next) :
    shared.maxTouches <+: after.maxTouches := by
  cases h with
  | accessed hupdate => exact Raising.step_values hupdate
  | _ => exact List.prefix_rfl

theorem accessesLeft_other {pool next : Pool Shared Callback} {before after : List Callback}
    {callback other : Callback} {choice : Choice} {index : Nat}
    (hsound : ∀ callback ∈ pool.members, callback.Sound pool.shared.maxTouches)
    (hmembers : pool.members = before ++ callback :: after)
    (hnext : next.members = before ++ other :: after)
    (hact : rules.act before.length pool.shared callback choice = some (next.shared, other))
    (hne : index ≠ before.length) : accessesLeft index next = accessesLeft index pool := by
  have hsame : next.members[index]? = pool.members[index]? := by
    simp only [hmembers, hnext, List.getElem?_append, List.getElem?_cons]
    grind
  have hlater := (moves_of_contactCallback hact).2.maxTouches
  rw [accessesLeft, accessesLeft, hsame]
  cases hat : pool.members[index]? with
  | none => rfl
  | some who =>
      dsimp only
      split
      case isTrue hvalid =>
        exact Raising.rank_extend ((hsound who (List.mem_of_getElem? hat)).raised hvalid) hlater
      case isFalse => rfl

theorem accessesLeft_step {pool next : Pool Shared Callback} {action : Action}
    (hholds : AllSound pool)
    (hstep : rules.step pool action = some next) (index : Nat) :
    accessesLeft index next + (if accessedBy index action then 1 else 0) ≤
      accessesLeft index pool := by
  cases action with
  | joins call =>
      cases hstep
      simp only [accessesLeft, accessedBy, List.getElem?_append]
      by_cases hlt : index < pool.members.length
      case pos => simp [hlt]
      case neg =>
        rw [if_neg hlt, List.getElem?_eq_none (not_lt.mp hlt)]
        cases index - pool.members.length with
        | zero =>
            cases hvalid : call.valid with
            | false => simp [rules, hvalid]
            | true =>
                have hle := Call.count_le hvalid
                simp [rules, hvalid, Callback.update, Raising.rank, Call.candidate_eq hvalid]
                omega
        | succ more => simp
  | acts other choice =>
      obtain ⟨before, callback, after, changed, hmembers, rfl, hact, hnext⟩ :=
        PoolRules.step_acts hstep
      have hsound := hholds.2 callback (by simp [hmembers])
      by_cases hself : index = before.length
      · subst hself
        exact accessesLeft_self hholds.1 hsound hmembers hnext hact
      · have hnot : accessedBy index (.acts before.length choice) = false := by
          cases choice <;> simp [accessedBy, Ne.symm hself]
        rw [accessesLeft_other hholds.2 hmembers hnext hact hself, hnot]
        exact le_rfl

/-- Exchanges that fail for no reason apart, a call accesses the maximum at most 33 times,
whatever the other calls store meanwhile. -/
theorem update_max_touches_bounded (hrun : runFrom rules.step started actions = some final)
    (index : Nat) : actions.countP (accessedBy index) ≤ 33 := by
  have hstep : ∀ pool action next, AllSound pool → rules.step pool action = some next →
      AllSound next ∧ accessesLeft index next + (if accessedBy index action then 1 else 0) ≤
        accessesLeft index pool := fun pool action next hholds hnext =>
    ⟨sound_invariant.step hholds hnext, accessesLeft_step hholds hnext index⟩
  have hrank := (runFrom_rank hstep started_sound hrun).2
  have hstarted : accessesLeft index started = 33 := rfl
  omega

theorem update_max_touches_bounded_three_calls : threeCalls.countP (accessedBy 1) ≤ 33 := by
  obtain ⟨final, hrun, -⟩ := threeCalls_return
  exact update_max_touches_bounded hrun 1

end Touchpad.Probe
