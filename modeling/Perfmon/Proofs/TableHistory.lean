import Perfmon.Proofs.Granting
/-!
# The history of the reservation table

What the table answers follows from what it was asked and has answered before. What stands of such a
history for a resource (`standing`) are the reservations of the resource that were granted and not
given up since, the oldest first. This is what the table keeps (`holders_performAll`), and it decides
every answer (`DecidesBy`, `history_decides`).
-/

namespace Perfmon

/-! ## Histories -/

/-- A call to the reservation table. -/
inductive TableCall where
  /-- To reserve a resource for a session. -/
  | reserve (r : Resource) (s : Handle) (mode : ReservationMode)
  /-- To give up a resource of a session. -/
  | release (r : Resource) (s : Handle)
  /-- To give up every resource of a session. -/
  | releaseAll (s : Handle)
  deriving DecidableEq, Repr

/-- The answer to a call. -/
inductive TableAnswer where
  /-- What became of a reservation. -/
  | reserved (result : Except Conflict Grant)
  /-- What was given up of one resource. -/
  | released (outcome : Release)
  /-- The resources that were given up. -/
  | freed (resources : List Resource)

/-- Whether a call gives up a resource of a session, if the session has it. -/
def TableCall.givesUp (r : Resource) (s : Handle) : TableCall → Bool
  | .reserve _ _ _ => false
  | .release q k => q == r && s == k
  | .releaseAll k => s == k

/-- The holder that a call with its answer has made of a resource, if any. -/
def TableCall.granted (r : Resource) : TableCall → TableAnswer → List Holder
  | .reserve q s mode, .reserved (.ok .granted) => if q = r then [⟨s, mode⟩] else []
  | _, _ => []

namespace ReservationTable

/-- What stands of a history for a resource: the holders that were made and have not given it up
later on. -/
def standing (r : Resource) : List (TableCall × TableAnswer) → List Holder
  | [] => []
  | (c, a) :: later =>
    (c.granted r a).filter (fun h => !later.any (·.1.givesUp r h.session)) ++ standing r later

/-- The last call of a history takes away from what stood, and adds to it. -/
theorem standing_snoc (r : Resource) (log : List (TableCall × TableAnswer)) (c : TableCall)
    (a : TableAnswer) :
    standing r (log ++ [(c, a)])
      = (standing r log).filter (fun h => !c.givesUp r h.session) ++ c.granted r a := by
  induction log with
  | nil => simp [standing]
  | cons x log ih =>
    rw [List.cons_append, standing, standing, ih, List.filter_append, List.filter_filter,
      List.append_assoc]
    congr 2
    funext h
    rw [List.any_append, Bool.not_or, Bool.and_comm, List.any_cons, List.any_nil, Bool.or_false]

/-- Serves a call. -/
def perform (t : ReservationTable) : TableCall → TableAnswer × ReservationTable
  | .reserve r s mode => (.reserved (t.reserve r s mode).1, (t.reserve r s mode).2)
  | .release r s => (.released (t.release r s).1, (t.release r s).2)
  | .releaseAll s => (.freed (t.releaseAll s).1, (t.releaseAll s).2)

/-- Serves calls one after the other. -/
def performAll (t : ReservationTable) (calls : List TableCall) : ReservationTable :=
  calls.foldl (fun t c => (t.perform c).2) t

/-- The calls with their answers. -/
def answers (t : ReservationTable) : List TableCall → List (TableCall × TableAnswer)
  | [] => []
  | c :: cs => (c, (t.perform c).1) :: (t.perform c).2.answers cs

theorem performAll_snoc (t : ReservationTable) (cs : List TableCall) (c : TableCall) :
    t.performAll (cs ++ [c]) = ((t.performAll cs).perform c).2 := by
  rw [performAll, List.foldl_append]
  rfl

theorem answers_snoc (t : ReservationTable) (cs : List TableCall) (c : TableCall) :
    t.answers (cs ++ [c]) = t.answers cs ++ [(c, ((t.performAll cs).perform c).1)] := by
  induction cs generalizing t with
  | nil => rfl
  | cons d cs ih =>
    rw [List.cons_append, answers, answers, ih]
    rfl

/-! ## What the table keeps -/

variable {t : ReservationTable}

/-- A call takes away those who give a resource up, and adds at the end whom it makes a holder. -/
theorem holders_perform (t : ReservationTable) (c : TableCall) (r : Resource) :
    (t.perform c).2.holders r
      = (t.holders r).filter (fun h => !c.givesUp r h.session) ++ c.granted r (t.perform c).1 := by
  cases c with
  | reserve q s mode =>
    have hall : (t.holders r).filter (fun h => !(TableCall.reserve q s mode).givesUp r h.session)
        = t.holders r := List.filter_eq_self.mpr fun _ _ => rfl
    rw [hall]
    dsimp only [perform]
    rcases t.reserve_cases q s mode with ⟨own, -, hr⟩ | ⟨h, -, -, hr⟩ | ⟨-, -, hr⟩
    · rw [hr]
      exact (List.append_nil _).symm
    · rw [hr]
      exact (List.append_nil _).symm
    · rw [hr]
      dsimp only [TableCall.granted]
      rw [holders_enter]
      by_cases hq : q = r
      · rw [if_pos hq.symm, if_pos hq, hq]
      · rw [if_neg (Ne.symm hq), if_neg hq, List.append_nil]
  | release q s =>
    refine (t.holders_release q r s).trans ?_
    rw [show TableCall.granted r (.release q s) _ = [] from rfl, List.append_nil]
    by_cases hq : r = q
    · subst hq
      rw [if_pos rfl, without]
      refine List.filter_congr fun h _ => ?_
      rw [TableCall.givesUp, beq_self_eq_true, Bool.true_and]
      rfl
    · rw [if_neg hq]
      refine (List.filter_eq_self.mpr fun h _ => ?_).symm
      simp [TableCall.givesUp, Ne.symm hq]
  | releaseAll s =>
    refine (t.holders_releaseAll r s).trans ?_
    rw [show TableCall.granted r (.releaseAll s) _ = [] from rfl, List.append_nil]
    rfl

theorem WellFormed.perform (ht : t.WellFormed) (c : TableCall) : (t.perform c).2.WellFormed := by
  cases c with
  | release q s => exact ht.release
  | releaseAll s => exact ht.releaseAll
  | reserve q s mode =>
    dsimp only [ReservationTable.perform]
    rcases t.reserve_cases q s mode with ⟨own, -, hr⟩ | ⟨h, -, -, hr⟩ | ⟨hm, hb, hr⟩
    · rw [hr]
      exact ht
    · rw [hr]
      exact ht
    · rw [hr]
      exact ht.enter hm hb

theorem wellFormed_performAll (calls : List TableCall) : (empty.performAll calls).WellFormed := by
  induction calls using List.reverseRecOn with
  | nil => exact wellFormed_empty
  | append_singleton cs c ih =>
    rw [performAll_snoc]
    exact ih.perform c

/-- **The table keeps what stands.** -/
theorem holders_performAll (calls : List TableCall) (r : Resource) :
    (empty.performAll calls).holders r = standing r (empty.answers calls) := by
  induction calls using List.reverseRecOn with
  | nil => exact holders_empty r
  | append_singleton cs c ih => rw [performAll_snoc, answers_snoc, standing_snoc, holders_perform, ih]

/-! ## What the table answers -/

/-- What a table answers is decided by who is said to hold the resources. -/
structure DecidesBy (t : ReservationTable) (held : Resource → List Holder) : Prop where
  /-- They are the holders. -/
  holders (r : Resource) : t.holders r = held r
  /-- A session that holds a resource is told so, with its mode. -/
  already (r : Resource) (s : Handle) (mode own : ReservationMode) :
    (t.reserve r s mode).1 = .ok (.alreadyHeld own) ↔ ⟨s, own⟩ ∈ held r
  /-- Otherwise a holder with which it cannot share is in its way, -/
  conflict (r : Resource) (s : Handle) (mode : ReservationMode) :
    (∃ c, (t.reserve r s mode).1 = .error c) ↔
      (∀ own, ⟨s, own⟩ ∉ held r) ∧ ∃ h ∈ held r, mode.Incompatible h.mode
  /-- of which it is told the oldest one. -/
  oldest (r : Resource) (s : Handle) (mode : ReservationMode) (c : Conflict) :
    (t.reserve r s mode).1 = .error c → c.resource = r ∧ mode.Incompatible c.holder.mode ∧
      ∃ before after, held r = before ++ c.holder :: after ∧
        ∀ h ∈ before, ¬mode.Incompatible h.mode
  /-- Otherwise it gets the resource. -/
  granted (r : Resource) (s : Handle) (mode : ReservationMode) :
    (t.reserve r s mode).1 = .ok .granted ↔
      (∀ own, ⟨s, own⟩ ∉ held r) ∧ ∀ h ∈ held r, ¬mode.Incompatible h.mode
  /-- Nothing changes but when a resource is granted. -/
  unchanged (r : Resource) (s : Handle) (mode : ReservationMode) :
    (t.reserve r s mode).1 ≠ .ok .granted → (t.reserve r s mode).2 = t
  /-- What is held can be given up. -/
  released (r : Resource) (s : Handle) :
    (t.release r s).1 = .released ↔ ∃ own, ⟨s, own⟩ ∈ held r
  /-- Of all resources those are given up that are held, -/
  freed (s : Handle) (r : Resource) : r ∈ (t.releaseAll s).1 ↔ ∃ own, ⟨s, own⟩ ∈ held r
  /-- and told in their order, each of them once. -/
  sorted (s : Handle) : (t.releaseAll s).1.Pairwise (·.raw < ·.raw)
  /-- The holders of other resources stay. -/
  elsewhere (r q : Resource) (s : Handle) (mode : ReservationMode) : q ≠ r →
    (t.reserve r s mode).2.holders q = held q ∧ (t.release r s).2.holders q = held q
  /-- When everything is given up, the other holders stay. -/
  others (s : Handle) (r : Resource) :
    (t.releaseAll s).2.holders r = (held r).filter (·.session ≠ s)

theorem modeOf?_eq_none_iff_forall {r : Resource} {s : Handle} :
    t.modeOf? r s = none ↔ ∀ own, ⟨s, own⟩ ∉ t.holders r := by
  rw [modeOf?_eq_none_iff]
  exact ⟨fun h own hm => h _ hm rfl, fun h x hx hs => h x.mode (hs ▸ hx)⟩

theorem holds_iff {r : Resource} {s : Handle} :
    t.holds r s = true ↔ ∃ own, ⟨s, own⟩ ∈ t.holders r := by
  rw [holds, List.any_eq_true]
  constructor
  · rintro ⟨x, hx, hs⟩
    exact ⟨x.mode, (beq_iff_eq.mp hs) ▸ hx⟩
  · rintro ⟨own, ho⟩
    exact ⟨_, ho, beq_self_eq_true s⟩

theorem not_incompatible_of_blocker?_eq_none {r : Resource} {mode : ReservationMode}
    (hb : t.blocker? r mode = none) : ∀ h ∈ t.holders r, ¬mode.Incompatible h.mode := by
  intro h hh hi
  have hc := blocker?_eq_none_iff.mp hb h hh
  rw [ReservationMode.conflicts_iff.mpr hi] at hc
  cases hc

/-- Whoever is in the way is the oldest one who is. -/
theorem oldest_of_blocker?_eq_some {r : Resource} {mode : ReservationMode} {h : Holder}
    (hb : t.blocker? r mode = some h) :
    mode.Incompatible h.mode ∧ ∃ before after, t.holders r = before ++ h :: after ∧
      ∀ x ∈ before, ¬mode.Incompatible x.mode := by
  obtain ⟨hc, before, after, hsplit, hbefore⟩ := List.find?_eq_some_iff_append.mp hb
  refine ⟨ReservationMode.conflicts_iff.mp hc, before, after, hsplit, fun x hx hi => ?_⟩
  have hn := hbefore x hx
  rw [ReservationMode.conflicts_iff.mpr hi] at hn
  cases hn

/-- A table that keeps to the rules decides by its holders. -/
theorem WellFormed.decidesBy (ht : t.WellFormed) : t.DecidesBy t.holders where
  holders _ := rfl
  already r s mode own := by
    rw [← modeOf?_eq_some_iff ht]
    rcases t.reserve_cases r s mode with ⟨m, hm, hr⟩ | ⟨h, hm, -, hr⟩ | ⟨hm, -, hr⟩
    · rw [hr, hm]
      simp
    · rw [hr, hm]
      simp
    · rw [hr, hm]
      simp
  conflict r s mode := by
    rw [← modeOf?_eq_none_iff_forall]
    rcases t.reserve_cases r s mode with ⟨m, hm, hr⟩ | ⟨h, hm, hb, hr⟩ | ⟨hm, hb, hr⟩
    · rw [hr, hm]
      simp
    · obtain ⟨hmem, hc⟩ := blocker?_eq_some hb
      rw [hr]
      exact ⟨fun _ => ⟨hm, h, hmem, ReservationMode.conflicts_iff.mp hc⟩, fun _ => ⟨_, rfl⟩⟩
    · rw [hr]
      refine ⟨nofun, fun ⟨_, h, hh, hi⟩ => ?_⟩
      exact absurd hi (not_incompatible_of_blocker?_eq_none hb h hh)
  oldest r s mode c hc := by
    rcases t.reserve_cases r s mode with ⟨m, hm, hr⟩ | ⟨h, hm, hb, hr⟩ | ⟨hm, hb, hr⟩
    · rw [hr] at hc
      cases hc
    · rw [hr] at hc
      cases hc
      exact ⟨rfl, oldest_of_blocker?_eq_some hb⟩
    · rw [hr] at hc
      cases hc
  granted r s mode := by
    rw [← modeOf?_eq_none_iff_forall]
    rcases t.reserve_cases r s mode with ⟨m, hm, hr⟩ | ⟨h, hm, hb, hr⟩ | ⟨hm, hb, hr⟩
    · rw [hr, hm]
      simp
    · obtain ⟨hmem, hc⟩ := blocker?_eq_some hb
      rw [hr]
      exact ⟨nofun, fun hn => absurd (ReservationMode.conflicts_iff.mp hc) (hn.2 h hmem)⟩
    · rw [hr]
      exact ⟨fun _ => ⟨hm, not_incompatible_of_blocker?_eq_none hb⟩, fun _ => rfl⟩
  unchanged r s mode hn := by
    rcases t.reserve_cases r s mode with ⟨m, hm, hr⟩ | ⟨h, hm, hb, hr⟩ | ⟨hm, hb, hr⟩
    · rw [hr]
    · rw [hr]
    · rw [hr] at hn
      exact absurd rfl hn
  released r s := by
    rw [← holds_iff, ReservationTable.release, loses_eq_holds]
    cases t.holds r s <;> simp
  freed s r := by
    rw [← holds_iff, releaseAll_fst, heldBy, List.mem_filter]
    exact and_iff_right r.mem_all
  sorted s := by
    rw [releaseAll_fst]
    exact List.Pairwise.filter _ (by decide)
  elsewhere r q s mode hq := by
    constructor
    · rcases t.reserve_cases r s mode with ⟨m, hm, hr⟩ | ⟨h, hm, hb, hr⟩ | ⟨hm, hb, hr⟩
      · rw [hr]
      · rw [hr]
      · rw [hr]
        dsimp only
        rw [holders_enter, if_neg hq]
    · rw [holders_release, if_neg hq]
  others s r := by
    rw [holders_releaseAll, without]
    exact List.filter_congr fun h _ => (decide_not.trans rfl).symm

/-- **The history decides.** Whatever a table without holders has been asked, in whatever order: its
holders are those who were granted a resource and have not given it up since, the oldest first; and
they decide what it answers next and what changes then. -/
theorem history_decides (calls : List TableCall) :
    (empty.performAll calls).DecidesBy fun r => standing r (empty.answers calls) := by
  have hheld : (empty.performAll calls).holders = fun r => standing r (empty.answers calls) :=
    funext (holders_performAll calls)
  rw [← hheld]
  exact (wellFormed_performAll calls).decidesBy

/-- Two sessions share a resource, a third one wants it for itself and is refused, and the first one
gives it up. -/
example :
    standing .smpc (empty.answers
      [.reserve .smpc ⟨1⟩ (.contextSwitched ⟨1⟩), .reserve .smpc ⟨2⟩ (.contextSwitched ⟨2⟩),
        .reserve .smpc ⟨3⟩ .global, .release .smpc ⟨1⟩]) = [⟨⟨2⟩, .contextSwitched ⟨2⟩⟩] := by
  decide

end ReservationTable

end Perfmon
