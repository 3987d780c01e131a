import Dispatch.Bus
import Dispatch.Proofs.Registry.Lookup

namespace Dispatch.Bus

variable {κ : Type}

/-- All that can be done to a bus from outside. -/
inductive Edit (κ : Type) where
  | subscribe (channel : Channel) (event : String) (subscription : Subscription κ)
  | unsubscribe (channel : Channel) (event : String) (id : SubscriptionId)
  | clear

/-- The bus after an edit. -/
def edit (bus : Bus κ) : Edit κ → Bus κ
  | .subscribe channel event subscription => bus.subscribe channel event subscription
  | .unsubscribe channel event id => (bus.unsubscribe channel event id).2
  | .clear => bus.clear

/-- The bus after edits in a row. -/
def edits (bus : Bus κ) (list : List (Edit κ)) : Bus κ := list.foldl edit bus

section lookup
variable (bus : Bus κ) (channel : Channel) (event : String) (list : List (Subscription κ))

@[simp] theorem on_empty : (empty : Bus κ).on channel = ∅ := by
  cases channel <;> rfl

@[simp] theorem subscriptions_empty : (empty : Bus κ).subscriptions channel event = [] := by
  cases channel <;> rfl

/-- Each channel has a table of its own. -/
theorem on_setOn (other : Channel) (table : Table (List (Subscription κ))) :
    (bus.setOn channel table).on other = if other = channel then table else bus.on other := by
  cases channel <;> cases other <;> rfl

/-- Under an event there are the subscriptions that were put there last, and nothing if there are none. -/
theorem get?_setSubscriptions (other : Channel) (place : String) :
    ((bus.setSubscriptions channel event list).on other).get? place =
      if other = channel ∧ place = event then if list.isEmpty then none else some list
      else (bus.on other).get? place := by
  unfold setSubscriptions
  rw [on_setOn]
  by_cases same : other = channel
  · subst same
    cases list with
    | nil => simp [Table.get?_erase]
    | cons first rest => simp [Table.get?_insert]
  · simp [same]

theorem subscriptions_setSubscriptions (other : Channel) (place : String) :
    (bus.setSubscriptions channel event list).subscriptions other place =
      if other = channel ∧ place = event then list else bus.subscriptions other place := by
  unfold subscriptions
  rw [get?_setSubscriptions]
  split
  · cases list <;> rfl
  · rfl

/-- A bus is known by what is kept under its events. -/
theorem ext_get? {first second : Bus κ}
    (same : ∀ channel event, (first.on channel).get? event = (second.on channel).get? event) : first = second := by
  obtain ⟨blocking, cooperative⟩ := first
  obtain rfl : blocking = second.blocking := Table.ext_get? (same .blocking)
  obtain rfl : cooperative = second.cooperative := Table.ext_get? (same .cooperative)
  rfl

end lookup

section standing
variable (channel : Channel) (event : String)

/-- Whether a subscription to an event does not outlast an edit. -/
def Edit.takesOff (id : SubscriptionId) : Edit κ → Bool
  | .subscribe .. => false
  | .unsubscribe other place gone => other = channel ∧ place = event ∧ gone = id
  | .clear => true

/-- Whether a subscription to an event outlasts edits. -/
def outlasts (later : List (Edit κ)) (subscription : Subscription κ) : Bool :=
  later.all fun edit => !edit.takesOff channel event subscription.id

/-- Whoever subscribed to an event in the course of edits and was not taken off later, in order. -/
def standing : List (Edit κ) → List (Subscription κ)
  | [] => []
  | .subscribe other place subscription :: later =>
    if other = channel ∧ place = event ∧ outlasts channel event later subscription then
      subscription :: standing later
    else standing later
  | _ :: later => standing later

variable {channel event}

theorem subscriptions_edit (bus : Bus κ) (edit : Edit κ) :
    (bus.edit edit).subscriptions channel event =
      ((bus.subscriptions channel event).filter fun subscription =>
        !edit.takesOff channel event subscription.id) ++
        match edit with
        | .subscribe other place subscription => if other = channel ∧ place = event then [subscription] else []
        | _ => [] := by
  cases edit with
  | subscribe other place subscription =>
    have all : (bus.subscriptions channel event).filter
        (fun old => !(Edit.subscribe other place subscription).takesOff channel event old.id) =
          bus.subscriptions channel event :=
      List.filter_eq_self.mpr fun _ _ => rfl
    change (bus.setSubscriptions other place _).subscriptions channel event = _
    rw [subscriptions_setSubscriptions]
    by_cases here : other = channel ∧ place = event
    · obtain ⟨rfl, rfl⟩ := here
      simp [all]
    · rw [if_neg fun same => here ⟨same.1.symm, same.2.symm⟩]
      simp [all, here]
  | unsubscribe other place id =>
    change (bus.setSubscriptions other place _).subscriptions channel event = _
    rw [subscriptions_setSubscriptions]
    by_cases here : other = channel ∧ place = event
    · obtain ⟨rfl, rfl⟩ := here
      simp [Edit.takesOff, eq_comm]
    · rw [if_neg fun same => here ⟨same.1.symm, same.2.symm⟩]
      have untouched : ∀ subscription ∈ bus.subscriptions channel event,
          (!Edit.takesOff channel event subscription.id (.unsubscribe (κ := κ) other place id)) = true := by
        intro subscription _
        simp only [Edit.takesOff, Bool.not_eq_true', decide_eq_false_iff_not]
        exact fun off => here ⟨off.1, off.2.1⟩
      rw [List.filter_eq_self.mpr untouched, List.append_nil]
  | clear => simp [Bus.edit, clear, Edit.takesOff]

/-- After edits those stand who stood before and outlasted the edits, and those who subscribed meanwhile. -/
theorem subscriptions_edits (bus : Bus κ) (list : List (Edit κ)) :
    (bus.edits list).subscriptions channel event =
      (bus.subscriptions channel event).filter (outlasts channel event list) ++ standing channel event list := by
  induction list generalizing bus with
  | nil =>
    have all : (bus.subscriptions channel event).filter (outlasts channel event []) =
        bus.subscriptions channel event :=
      List.filter_eq_self.mpr fun _ _ => rfl
    rw [all]
    exact (List.append_nil _).symm
  | cons edit later ih =>
    change ((bus.edit edit).edits later).subscriptions channel event = _
    rw [ih, subscriptions_edit, List.filter_append, List.filter_filter, List.append_assoc]
    congr 1
    · refine List.filter_congr fun subscription _ => ?_
      simp [outlasts, Bool.and_comm]
    · cases edit with
      | subscribe other place subscription =>
        by_cases here : other = channel ∧ place = event
        · obtain ⟨rfl, rfl⟩ := here
          by_cases stays : outlasts other place later subscription <;> simp [standing, stays]
        · have elsewhere : ¬(other = channel ∧ place = event ∧ outlasts channel event later subscription) :=
            fun both => here ⟨both.1, both.2.1⟩
          simp [standing, here, elsewhere]
      | unsubscribe other place id => rfl
      | clear => rfl

/-- On a bus that started empty those are subscribed whom the edits tell of. -/
theorem subscriptions_edits_empty (list : List (Edit κ)) :
    ((empty : Bus κ).edits list).subscriptions channel event = standing channel event list := by
  rw [subscriptions_edits]
  simp

end standing

/-- New subscriptions have numbers that ascend, from a lower bound on and below an upper one. -/
def Numbered (high : Nat) : Nat → List (Edit κ) → Prop
  | low, [] => low ≤ high
  | low, .subscribe _ _ subscription :: later =>
    low ≤ subscription.id.index ∧ Numbered high (subscription.id.index + 1) later
  | low, _ :: later => Numbered high low later

section numbered

theorem Numbered.le {low high : Nat} {list : List (Edit κ)} (numbered : Numbered high low list) : low ≤ high := by
  induction list generalizing low with
  | nil => exact numbered
  | cons edit later ih =>
    cases edit with
    | subscribe channel event subscription =>
      obtain ⟨above, numbered⟩ := numbered
      have := ih numbered
      omega
    | unsubscribe channel event id => exact ih numbered
    | clear => exact ih numbered

theorem Numbered.weaken {low lower high : Nat} {list : List (Edit κ)} (numbered : Numbered high low list)
    (le : lower ≤ low) : Numbered high lower list := by
  induction list generalizing low lower with
  | nil => exact Nat.le_trans le numbered
  | cons edit later ih =>
    cases edit with
    | subscribe channel event subscription => exact ⟨Nat.le_trans le numbered.1, numbered.2⟩
    | unsubscribe channel event id => exact ih numbered le
    | clear => exact ih numbered le

theorem Numbered.append {low middle high : Nat} {first second : List (Edit κ)} (begun : Numbered middle low first)
    (ended : Numbered high middle second) : Numbered high low (first ++ second) := by
  induction first generalizing low with
  | nil => exact ended.weaken begun
  | cons edit later ih =>
    cases edit with
    | subscribe channel event subscription => exact ⟨begun.1, ih begun.2⟩
    | unsubscribe channel event id => exact ih begun
    | clear => exact ih begun

end numbered

/-- No event is kept without subscriptions, and the numbers of subscriptions ascend below a bound. -/
structure Fits (bus : Bus κ) (bound : Nat) : Prop where
  tidy (channel : Channel) (event : String) : (bus.on channel).get? event ≠ some []
  ascending (channel : Channel) (event : String) :
    (bus.subscriptions channel event).Pairwise fun first second => first.id.index < second.id.index
  below (channel : Channel) (event : String) :
    ∀ subscription ∈ bus.subscriptions channel event, subscription.id.index < bound

section fits
variable {bus : Bus κ} {bound : Nat}

theorem fits_empty (bound : Nat) : (empty : Bus κ).Fits bound where
  tidy channel event := by simp [EmptyCollection.emptyCollection]
  ascending channel event := by simp
  below channel event := by simp

theorem Fits.mono {higher : Nat} (fits : bus.Fits bound) (le : bound ≤ higher) : bus.Fits higher where
  tidy := fits.tidy
  ascending := fits.ascending
  below channel event subscription member := Nat.lt_of_lt_of_le (fits.below channel event subscription member) le

/-- Under one event there may be any other subscriptions that ascend below the bound. -/
theorem Fits.setSubscriptions (fits : bus.Fits bound) (channel : Channel) (event : String)
    {list : List (Subscription κ)}
    (ascending : list.Pairwise fun first second => first.id.index < second.id.index)
    (below : ∀ subscription ∈ list, subscription.id.index < bound) :
    (bus.setSubscriptions channel event list).Fits bound where
  tidy other place := by
    rw [get?_setSubscriptions]
    split
    · cases list <;> simp
    · exact fits.tidy other place
  ascending other place := by
    rw [subscriptions_setSubscriptions]
    split
    · exact ascending
    · exact fits.ascending other place
  below other place := by
    rw [subscriptions_setSubscriptions]
    split
    · exact below
    · exact fits.below other place

/-- A new subscription has the next number or a later one. -/
theorem Fits.subscribe (fits : bus.Fits bound) (channel : Channel) (event : String) {subscription : Subscription κ}
    (new : bound ≤ subscription.id.index) :
    (bus.subscribe channel event subscription).Fits (subscription.id.index + 1) := by
  have wider := fits.mono (Nat.le_trans new (Nat.le_succ _))
  refine wider.setSubscriptions channel event ?_ ?_
  · refine List.pairwise_append.mpr ⟨fits.ascending channel event, List.pairwise_singleton _ _, ?_⟩
    intro first before second last
    rw [List.mem_singleton.mp last]
    exact Nat.lt_of_lt_of_le (fits.below channel event first before) new
  · intro other member
    rcases List.mem_append.mp member with before | last
    · exact wider.below channel event other before
    · rw [List.mem_singleton.mp last]
      exact Nat.lt_succ_self _

theorem Fits.unsubscribe (fits : bus.Fits bound) (channel : Channel) (event : String) (id : SubscriptionId) :
    (bus.unsubscribe channel event id).2.Fits bound :=
  fits.setSubscriptions channel event ((fits.ascending channel event).filter _) fun subscription member =>
    fits.below channel event subscription (List.mem_filter.mp member).1

/-- However it is edited, a bus keeps fitting, as long as new subscriptions are numbered. -/
theorem Fits.edits {high : Nat} {list : List (Edit κ)} (fits : bus.Fits bound) (numbered : Numbered high bound list) :
    (bus.edits list).Fits high := by
  induction list generalizing bus bound with
  | nil => exact fits.mono numbered
  | cons edit later ih =>
    cases edit with
    | subscribe channel event subscription =>
      obtain ⟨new, numbered⟩ := numbered
      exact ih (fits.subscribe channel event new) numbered
    | unsubscribe channel event id => exact ih (fits.unsubscribe channel event id) numbered
    | clear => exact ih (fits_empty bound) numbered

end fits

/-- A subscription goes behind the ones to the same event. -/
theorem subscriptions_subscribe (bus : Bus κ) (channel : Channel) (event : String) (subscription : Subscription κ) :
    (bus.subscribe channel event subscription).subscriptions channel event =
      bus.subscriptions channel event ++ [subscription] := by
  change (bus.setSubscriptions channel event _).subscriptions channel event = _
  rw [subscriptions_setSubscriptions, if_pos ⟨rfl, rfl⟩]

/-- A subscription leaves everything elsewhere as it is. -/
theorem get?_subscribe_of_ne (bus : Bus κ) {channel other : Channel} {event place : String}
    (subscription : Subscription κ) (elsewhere : ¬(other = channel ∧ place = event)) :
    ((bus.subscribe channel event subscription).on other).get? place = (bus.on other).get? place := by
  change ((bus.setSubscriptions channel event _).on other).get? place = _
  rw [get?_setSubscriptions, if_neg elsewhere]

section removal
variable {bus : Bus κ} {channel : Channel} {event : String} {id : SubscriptionId} {bound : Nat}

theorem unsubscribe_fst (bus : Bus κ) (channel : Channel) (event : String) (id : SubscriptionId) :
    (bus.unsubscribe channel event id).1 =
      decide (∃ subscription ∈ bus.subscriptions channel event, subscription.id = id) := by
  change (bus.subscriptions channel event).any _ = _
  simp [List.any_eq]

/-- A removal leaves everything elsewhere as it is. -/
theorem get?_unsubscribe_of_ne (bus : Bus κ) (id : SubscriptionId) {other : Channel} {place : String}
    (elsewhere : ¬(other = channel ∧ place = event)) :
    ((bus.unsubscribe channel event id).2.on other).get? place = (bus.on other).get? place := by
  change ((bus.setSubscriptions channel event _).on other).get? place = _
  rw [get?_setSubscriptions, if_neg elsewhere]

/-- In a bus that fits the one look-up of an event tells the same as the other. -/
theorem Fits.get?_eq (fits : bus.Fits bound) (channel : Channel) (event : String) :
    (bus.on channel).get? event =
      if (bus.subscriptions channel event).isEmpty then none else some (bus.subscriptions channel event) := by
  have kept := fits.tidy channel event
  unfold subscriptions
  cases found : (bus.on channel).get? event with
  | none => rfl
  | some list =>
    cases list with
    | nil => exact absurd found kept
    | cons first rest => rfl

theorem subscriptions_unsubscribe (bus : Bus κ) (channel : Channel) (event : String) (id : SubscriptionId) :
    (bus.unsubscribe channel event id).2.subscriptions channel event =
      (bus.subscriptions channel event).filter fun subscription => subscription.id ≠ id := by
  change (bus.setSubscriptions channel event _).subscriptions channel event = _
  rw [subscriptions_setSubscriptions, if_pos ⟨rfl, rfl⟩]

/-- If nobody is subscribed under a number, taking it off changes nothing. -/
theorem Fits.unsubscribe_of_absent (fits : bus.Fits bound)
    (absent : ∀ subscription ∈ bus.subscriptions channel event, subscription.id ≠ id) :
    (bus.unsubscribe channel event id).2 = bus := by
  refine ext_get? fun other place => ?_
  by_cases here : other = channel ∧ place = event
  · obtain ⟨rfl, rfl⟩ := here
    have all : (bus.subscriptions other place).filter (fun subscription => subscription.id ≠ id) =
        bus.subscriptions other place :=
      List.filter_eq_self.mpr fun subscription member => decide_eq_true (absent subscription member)
    rw [(fits.unsubscribe other place id).get?_eq, fits.get?_eq, subscriptions_unsubscribe, all]
  · exact get?_unsubscribe_of_ne bus id here

/-- Numbers that ascend tell subscriptions apart. -/
theorem Fits.distinct (fits : bus.Fits bound) (channel : Channel) (event : String) :
    (bus.subscriptions channel event).Pairwise fun first second => first.id ≠ second.id := by
  refine (fits.ascending channel event).imp fun smaller same => ?_
  rw [same] at smaller
  exact absurd smaller (Nat.lt_irrefl _)

/-- Whoever is subscribed is taken off alone. -/
theorem Fits.unsubscribe_of_present (fits : bus.Fits bound) {front back : List (Subscription κ)}
    {subscription : Subscription κ} (present : bus.subscriptions channel event = front ++ subscription :: back) :
    (bus.unsubscribe channel event subscription.id).2.subscriptions channel event = front ++ back := by
  have distinct := fits.distinct channel event
  rw [present] at distinct
  obtain ⟨_, later, earlier⟩ := List.pairwise_append.mp distinct
  have before : front.filter (fun other => other.id ≠ subscription.id) = front :=
    List.filter_eq_self.mpr fun other member =>
      decide_eq_true (earlier other member subscription List.mem_cons_self)
  have after : back.filter (fun other => other.id ≠ subscription.id) = back :=
    List.filter_eq_self.mpr fun other member =>
      decide_eq_true fun same => List.rel_of_pairwise_cons later member same.symm
  rw [subscriptions_unsubscribe, present, List.filter_append, before, List.filter_cons_of_neg (by simp), after]

end removal

end Dispatch.Bus
