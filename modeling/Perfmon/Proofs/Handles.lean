import Perfmon.Proofs.Attendance
/-!
# Handles identify sessions

Handles are given out in turn, and after 2 ^ 32 openings they come round. So an open session bears
the count of openings at which it was opened, up to a multiple of 2 ^ 32 (`Numbered`), and the next
handle is a new one as long as no session has seen that many further openings.
`handles_identify_sessions` says so for runs of any length; nothing but the stay of single sessions
is limited. Without a limit it is not so: a session that stays is replaced by the one that gets its
handle, and nobody is told (`handles_come_round`). Sessions that come and go in between leave nothing
behind, so the state in which that happens can be written down (`small_comeAndGo`).
-/

namespace Perfmon

/-- A session that holds nothing and has nothing open goes without a trace on the device. -/
theorem Session.teardown_of_none {s : Session} {x : Executor} (hp : s.pmBound = false)
    (hq : x.armed = []) (h : ∀ r, x.device.reservations.modeOf? r s.handle = none) :
    s.teardown x = ([], x) := by
  have hx : x.strikes .releaseAll = false := by simp [Executor.strikes, hq]
  have hpass : x.pass .releaseAll = x := by
    obtain ⟨device, armed⟩ := x
    obtain rfl : armed = [] := hq
    rfl
  have hfreed : (x.device.reservations.releaseAll s.handle).1 = [] := by
    rw [ReservationTable.releaseAll_fst, List.eq_nil_iff_forall_not_mem]
    intro r hr
    exact ReservationTable.mem_heldBy_iff.mp hr (h r)
  have htable : (x.device.reservations.releaseAll s.handle).2 = x.device.reservations := by
    refine ReservationTable.ext_holders fun r => ?_
    rw [ReservationTable.holders_releaseAll, ReservationTable.without_of_modeOf?_none (h r)]
  unfold teardown closeWindows giveUpAll Executor.releaseAll
  rw [if_neg (by simp [hp]), Executor.call_of_not_strikes hx, hpass]
  dsimp only [Device.releaseAll]
  rw [hfreed, htable]

namespace Engine

variable {config : Config} {memory : Memory} {start e : Engine} {calls past kept : List Call}
  {h k : Handle} {c : Call}

/-- How many sessions a run closes. -/
def closings (e : Engine) : List Call → Nat
  | [] => 0
  | c :: cs => c.closings (e.perform c).1 + (e.perform c).2.closings cs

theorem closings_append (e : Engine) (cs ds : List Call) :
    e.closings (cs ++ ds) = e.closings cs + (e.performAll cs).closings ds := by
  induction cs generalizing e with
  | nil => exact (Nat.zero_add _).symm
  | cons c cs ih =>
    rw [List.cons_append, closings, closings, ih, Nat.add_assoc]
    rfl

theorem closings_concat (e : Engine) (cs : List Call) (c : Call) :
    e.closings (cs ++ [c]) = e.closings cs + c.closings ((e.performAll cs).perform c).1 := by
  rw [closings_append, closings, closings, Nat.add_zero]

theorem openings_concat (e : Engine) (cs : List Call) (c : Call) :
    e.openings (cs ++ [c]) = e.openings cs + ((e.performAll cs).perform c).1.openings := by
  rw [openings_append, openings, openings, Nat.add_zero]

/-- A handle is open at the start of a run, and behind each of its calls. -/
def StaysOpen (e : Engine) (h : Handle) (calls : List Call) : Prop :=
  ∀ cs, cs <+: calls → (e.performAll cs).sessions.contains h = true

theorem staysOpen_nil : e.StaysOpen h [] ↔ e.sessions.contains h = true := by
  constructor
  · intro hs
    exact hs [] (List.prefix_refl [])
  · intro ho cs hcs
    rwa [List.prefix_nil.mp hcs]

theorem StaysOpen.concat (hk : e.StaysOpen h kept)
    (ho : (e.performAll (kept ++ [c])).sessions.contains h = true) : e.StaysOpen h (kept ++ [c]) := by
  intro cs hcs
  rcases List.prefix_concat_iff.mp hcs with rfl | hcs
  · exact ho
  · exact hk cs hcs

/-- In no part of a run in which a session stays open are so many sessions opened that the next one
would get its handle. -/
def KeepsTurns (e : Engine) (calls : List Call) : Prop :=
  ∀ past kept rest h, calls = past ++ kept ++ rest → (e.performAll past).StaysOpen h kept →
    (e.performAll past).openings kept + 1 < UInt32.size

theorem KeepsTurns.of_append {rest : List Call} (hk : e.KeepsTurns (calls ++ rest)) :
    e.KeepsTurns calls := by
  intro past kept tail h hc ho
  exact hk past kept (tail ++ rest) h (by rw [hc, List.append_assoc]) ho

/-- A run that opens fewer sessions than there are handles. -/
theorem keepsTurns_of_openings (hn : e.openings calls + 1 < UInt32.size) : e.KeepsTurns calls := by
  intro past kept rest h hc _
  rw [hc, openings_append, openings_append] at hn
  omega

/-! ## The number of a session -/

/-- The next number is the count of openings, and so was that of each open session when it was
opened; it has been open ever since. -/
structure Numbered (start : Engine) (calls : List Call) : Prop where
  next : (start.performAll calls).nextHandle.toNat = (start.openings calls + 1) % UInt32.size
  since : ∀ h, (start.performAll calls).sessions.contains h = true → ∃ past kept,
    calls = past ++ kept ∧ (start.performAll past).StaysOpen h kept ∧
      h.number.toNat = start.openings past % UInt32.size

theorem numbered_nil (config : Config) (memory : Memory) : Numbered (fresh config memory) [] := by
  refine ⟨rfl, ?_⟩
  intro h hh
  cases hh

/-- A session that was open before the last call, and is still open. -/
theorem Numbered.since_before (hn : Numbered start calls)
    (hb : (start.performAll calls).sessions.contains h = true)
    (ho : (start.performAll (calls ++ [c])).sessions.contains h = true) :
    ∃ past kept, calls ++ [c] = past ++ kept ∧ (start.performAll past).StaysOpen h kept ∧
      h.number.toNat = start.openings past % UInt32.size := by
  obtain ⟨past, kept, rfl, hk, hnum⟩ := hn.since h hb
  rw [List.append_assoc] at ho ⊢
  rw [performAll_append] at ho
  exact ⟨past, kept ++ [c], rfl, hk.concat ho, hnum⟩

theorem Numbered.concat (hn : Numbered start calls) (c : Call) :
    Numbered start (calls ++ [c]) := by
  have hlast := openings_concat start calls c
  have hafter := performAll_concat start calls c
  cases (start.performAll calls).perform_attended c with
  | comes scope staging hc reply sessions next gauge =>
    rw [reply] at hlast
    refine ⟨?_, ?_⟩
    · -- The number wraps just when the remainder does.
      rw [hafter, next, hlast, UInt32.toNat_add, hn.next]
      simp [Reply.openings]
    · intro h ho
      by_cases hnew : h = ⟨(start.performAll calls).nextHandle⟩
      · refine ⟨calls ++ [c], [], (List.append_nil _).symm, staysOpen_nil.mpr ho, ?_⟩
        rw [hnew, hn.next, hlast]
        rfl
      · refine hn.since_before ?_ ho
        rw [hafter, sessions] at ho
        simpa [Assoc.contains, Assoc.find?_insert, hnew] using ho
  | goes k hc opened reply sessions next gauge =>
    rw [reply] at hlast
    refine ⟨by rw [hafter, next, hn.next, hlast]; rfl, ?_⟩
    intro h ho
    refine hn.since_before ?_ ho
    rw [hafter, sessions, Assoc.contains_erase, Bool.and_eq_true] at ho
    exact ho.2
  | stays openings closings sessions next gauge =>
    rw [openings] at hlast
    refine ⟨by rw [hafter, next, hn.next, hlast, Nat.add_zero], ?_⟩
    intro h ho
    refine hn.since_before ?_ ho
    rwa [hafter, sessions] at ho

theorem numbered_of_start (hs : Engine.start config memory = .ok start) (calls : List Call) :
    Numbered start calls := by
  obtain ⟨-, rfl⟩ := eq_fresh_of_start hs
  induction calls using List.reverseRecOn with
  | nil => exact numbered_nil config memory
  | append_singleton cs c ih => exact ih.concat c

/-- The next handle is not in use as long as the sessions keep their turns. -/
theorem Numbered.next_not_open (hn : Numbered start calls) (hk : start.KeepsTurns calls) :
    (start.performAll calls).sessions.contains ⟨(start.performAll calls).nextHandle⟩ = false := by
  by_contra ho
  obtain ⟨past, kept, hcalls, hstays, hnum⟩ := hn.since _ (by simpa using ho)
  have hturn := hk past kept [] _ (by rw [hcalls, List.append_nil]) hstays
  have hnext := hn.next
  -- Both numbers are counts of openings, and the counts are too close for a whole round.
  rw [hcalls, openings_append] at hnext
  dsimp only at hnum
  rw [hcalls] at hnum
  simp only [UInt32.size] at hturn hnext hnum
  omega

/-! ## Handles and counts -/

theorem sessionCount_of_start (hs : Engine.start config memory = .ok start)
    (hk : start.KeepsTurns calls) :
    (start.performAll calls).sessionCount + start.closings calls = start.openings calls := by
  induction calls using List.reverseRecOn with
  | nil =>
    obtain ⟨-, rfl⟩ := eq_fresh_of_start hs
    rfl
  | append_singleton cs c ih =>
    have hcount := ih hk.of_append
    have hfree := (numbered_of_start hs cs).next_not_open hk.of_append
    rw [performAll_concat, closings_concat, openings_concat]
    unfold sessionCount at hcount ⊢
    cases (start.performAll cs).perform_attended c with
    | comes scope staging hc reply sessions next gauge =>
      rw [reply, sessions, Assoc.size_insert hfree, hc]
      simp only [Reply.openings, Call.closings]
      omega
    | goes k hc opened reply sessions next gauge =>
      have hsize := Assoc.size_erase opened
      rw [reply, sessions, hc]
      simp only [Reply.openings, Call.closings]
      omega
    | stays openings closings sessions next gauge =>
      rw [openings, closings, Assoc.size_congr sessions]
      omega

/-- **Handles identify sessions** in a run of any length, as long as no session stays open until its
handle comes round. Whoever is opened gets a handle under which nobody is open, and all who are open
stay so and look the same; so there are as many open sessions as were opened and not closed. -/
theorem handles_identify_sessions (hs : Engine.start config memory = .ok start)
    (hk : start.KeepsTurns calls) :
    (∀ scope h, ((start.performAll calls).perform (.openSession scope)).1 = .opened (.ok h) →
      (start.performAll calls).sessions.contains h = false ∧
      ∀ k s, (start.performAll calls).sessions.find? k = some s →
        ((start.performAll calls).perform (.openSession scope)).2.sessions.find? k = some s ∧
        ((start.performAll calls).perform (.openSession scope)).2.info k
          = (start.performAll calls).info k) ∧
    (start.performAll calls).sessionCount + start.closings calls = start.openings calls := by
  refine ⟨?_, sessionCount_of_start hs hk⟩
  intro scope h ho
  have hfree := (numbered_of_start hs calls).next_not_open hk
  cases (start.performAll calls).perform_attended (.openSession scope) with
  | comes _ staging hc reply sessions next gauge =>
    cases ho.symm.trans reply
    refine ⟨hfree, ?_⟩
    intro k s hks
    have hne : k ≠ ⟨(start.performAll calls).nextHandle⟩ := by
      rintro rfl
      simp [Assoc.contains, hks] at hfree
    have hkeep : ((start.performAll calls).perform (.openSession scope)).2.sessions.find? k
        = some s := by
      rw [sessions, Assoc.find?_insert, if_neg hne, hks]
    exact ⟨hkeep, by rw [info, info, hkeep, hks]⟩
  | goes k hc => cases hc
  | stays openings =>
    rw [ho] at openings
    cases openings

/-- A run with a session that looks on while others come and go. -/
def shortStays : List Call :=
  [.openSession .device, .openSession .context, .close ⟨2⟩, .openSession .context, .close ⟨3⟩,
    .openSession .device]

theorem handles_identify_sessions_for_short_stays :
    Engine.start .small = .ok (fresh .small) ∧ (fresh .small).KeepsTurns shortStays ∧
      (small shortStays).sessionCount + (fresh .small).closings shortStays
        = (fresh .small).openings shortStays := by
  have hs : Engine.start .small = .ok (fresh .small) := rfl
  have hk : (fresh .small).KeepsTurns shortStays := keepsTurns_of_openings (by decide)
  exact ⟨hs, hk, (handles_identify_sessions hs hk).2⟩

/-! ## Handles come round -/

/-- Sessions that come and go one after the other, while a first one is open. -/
def comeAndGo : Nat → List Call
  | 0 => []
  | n + 1 => comeAndGo n ++ [.openSession .device, .close ⟨.ofNat (n + 2)⟩]

/-- What the trail says of sessions that come and go. -/
def comings : Nat → List AuditEvent
  | 0 => []
  | n + 1 => comings n ++
      [.sessionOpened ⟨.ofNat (n + 2)⟩ .device, .sessionClosed ⟨.ofNat (n + 2)⟩ 0]

/-- No failure is armed, sessions of device scope are let in, and nobody but the session of one
handle is open or holds anything. -/
structure Alone (e : Engine) (k : Handle) : Prop where
  quiet : e.executor.armed = []
  admits : ∃ staging, e.Admits .device staging
  opened : ∀ h ∈ e.sessions.keys, h = k
  holding : ∀ r, ∀ x ∈ e.device.reservations.holders r, x.session = k

/-- A session that comes under another handle and goes at once leaves no more behind than a higher
number and its entries in the trail. -/
theorem Alone.comes_and_goes (ha : e.Alone k) (hh : h = ⟨e.nextHandle⟩) (hne : h ≠ k) :
    e.performAll [.openSession .device, .close h] = { e with
        nextHandle := e.nextHandle + 1
        trail := e.trail.recordAll [.sessionOpened h .device, .sessionClosed h 0] } ∧
      e.openings [.openSession .device, .close h] = 1 ∧
      e.closings [.openSession .device, .close h] = 1 := by
  subst hh
  obtain ⟨staging, hadmits⟩ := ha.admits
  have hclosed : e.sessions.find? ⟨e.nextHandle⟩ = none :=
    Assoc.lookup_eq_none_iff.mpr fun hopen => hne (ha.opened _ hopen)
  have hholds : ∀ r, e.device.reservations.modeOf? r ⟨e.nextHandle⟩ = none := by
    intro r
    rw [ReservationTable.modeOf?_eq_none_iff]
    intro x hx heq
    exact hne (heq.symm.trans (ha.holding r x hx))
  have hgone : (Session.new ⟨e.nextHandle⟩ .device staging).teardown e.executor
      = ([], e.executor) :=
    Session.teardown_of_none rfl ha.quiet hholds
  simp only [performAll, List.foldl, openings, closings, perform, hadmits.openSession, close,
    Assoc.find?_insert_self, Assoc.erase_insert hclosed, hgone]
  exact ⟨rfl, rfl, rfl⟩

/-- While the handles do not come round, a session is alone with those that come and go, and these
leave nothing else behind. -/
theorem Alone.comeAndGo (ha : e.Alone ⟨1⟩) (hnext : e.nextHandle = 2) {n : Nat}
    (hn : n < UInt32.size) :
    e.performAll (Engine.comeAndGo n) = { e with
        nextHandle := .ofNat (n + 2)
        trail := e.trail.recordAll (comings n) } ∧
      e.openings (Engine.comeAndGo n) = n ∧ e.closings (Engine.comeAndGo n) = n := by
  induction n with
  | zero =>
    have hsame : e = { e with nextHandle := 2 } := by rw [← hnext]
    exact ⟨hsame, rfl, rfl⟩
  | succ n ih =>
    obtain ⟨he, ho, hc⟩ := ih (by omega)
    have hother : (⟨.ofNat (n + 2)⟩ : Handle) ≠ ⟨1⟩ := by
      intro heq
      have hnumber : (n + 2) % UInt32.size = 1 := by
        rw [← UInt32.toNat_ofNat']
        exact congrArg (fun h : Handle => h.number.toNat) heq
      simp only [UInt32.size] at hn hnumber
      omega
    have halone : Alone { e with
        nextHandle := .ofNat (n + 2)
        trail := e.trail.recordAll (comings n) } ⟨1⟩ :=
      ⟨ha.quiet, ha.admits.imp fun _ hs => ⟨hs.scope, hs.memory⟩, ha.opened, ha.holding⟩
    obtain ⟨he', ho', hc'⟩ := halone.comes_and_goes rfl hother
    rw [Engine.comeAndGo, performAll_append, openings_append, closings_append, he, ho, hc, he', ho',
      hc', comings, AuditTrail.recordAll_append, UInt32.ofNat_add (n + 1 + 1) 1]
    exact ⟨rfl, rfl, rfl⟩

/-- Behind a run that leaves one session, of the first handle, as many sessions come and go as there
are other handles. Then the first handle is next again, and else only the trail has changed. -/
theorem small_comeAndGo (past : List Call) (ha : (small past).Alone ⟨1⟩)
    (hnext : (small past).nextHandle = 2) :
    small (past ++ comeAndGo (UInt32.size - 1)) = { small past with
      nextHandle := 1
      trail := (small past).trail.recordAll (comings (UInt32.size - 1)) } := by
  obtain ⟨he, -⟩ := ha.comeAndGo hnext (n := UInt32.size - 1) (by decide)
  rw [small_append, he]
  rfl

/-- A session stays while as many others come and go as there are other handles. -/
def roundRun : List Call :=
  .openSession .device :: comeAndGo (UInt32.size - 1)

theorem alone_openSession : (small [.openSession .device]).Alone ⟨1⟩ :=
  ⟨rfl, ⟨_, rfl, rfl⟩, by decide, fun r => by cases r <;> decide⟩

/-- The next session gets the handle of the one that has stayed. -/
theorem small_roundRun : small roundRun = { small [.openSession .device] with
    nextHandle := 1
    trail := (small [.openSession .device]).trail.recordAll (comings (UInt32.size - 1)) } := by
  rw [roundRun, ← List.singleton_append]
  exact small_comeAndGo _ alone_openSession rfl

/-- A session of context scope gets the handle of a session of device scope that is open, and
replaces it: two more sessions were opened than closed, and one is open. -/
theorem handles_come_round :
    Engine.start .small = .ok (fresh .small) ∧
      (∃ i, (small roundRun).info ⟨1⟩ = .ok i ∧ i.scope = .device) ∧
      ((small roundRun).perform (.openSession .context)).1 = .opened (.ok ⟨1⟩) ∧
      (∃ i, (small (roundRun ++ [.openSession .context])).info ⟨1⟩ = .ok i ∧ i.scope = .context) ∧
      (small (roundRun ++ [.openSession .context])).sessionCount = 1 ∧
      (fresh .small).openings (roundRun ++ [.openSession .context])
        = (fresh .small).closings (roundRun ++ [.openSession .context]) + 2 := by
  have hlast : small (roundRun ++ [.openSession .context])
      = ((small roundRun).perform (.openSession .context)).2 := performAll_concat _ _ _
  have hopen : ((small roundRun).perform (.openSession .context)).1 = .opened (.ok ⟨1⟩) := by
    rw [small_roundRun]
    rfl
  refine ⟨rfl, ?_, hopen, ?_, ?_, ?_⟩
  · rw [small_roundRun]
    exact ⟨_, rfl, rfl⟩
  · rw [hlast, small_roundRun]
    exact ⟨_, rfl, rfl⟩
  · rw [hlast, small_roundRun]
    rfl
  · obtain ⟨-, ho, hc⟩ := alone_openSession.comeAndGo rfl (n := UInt32.size - 1) (by decide)
    have hrun : roundRun = [.openSession .device] ++ comeAndGo (UInt32.size - 1) :=
      List.singleton_append.symm
    have hopenings : (fresh .small).openings roundRun = 1 + (UInt32.size - 1) := by
      rw [hrun, openings_append, ← small, ho]
      rfl
    have hclosings : (fresh .small).closings roundRun = 0 + (UInt32.size - 1) := by
      rw [hrun, closings_append, ← small, hc]
      rfl
    rw [openings_concat, closings_concat, ← small, hopenings, hclosings, hopen]
    rfl

/-- A session that has windows open stays while the handles come round. -/
def abandonedRun : List Call :=
  readyRun ++ comeAndGo (UInt32.size - 1)

/-- The next session gets the handle of the one that has windows open. -/
theorem small_abandonedRun : small abandonedRun = { small readyRun with
    nextHandle := 1
    trail := (small readyRun).trail.recordAll (comings (UInt32.size - 1)) } :=
  small_comeAndGo readyRun ⟨rfl, ⟨_, rfl, rfl⟩, by decide, fun r => by cases r <;> decide⟩ rfl

end Engine

end Perfmon
