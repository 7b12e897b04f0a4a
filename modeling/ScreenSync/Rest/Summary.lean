/-
**Daily summaries.**

`daily_summary` fetches the events of one window, from midnight to `23:59:59`, and groups them by
device and, within a device, by category.

* `exec_dailySummary` — the items are one for each group of the events in the window.
* `usageOf_concat` — an event keeps the two accumulators in step; `daily_adds_up` — what each item
  holds, in whatever order the events are fetched.
* `inWindow_iff` — a window holds the instants of its date up to `23:59:59` sharp.
* `daily_partition_iff` — the summaries of all dates partition the usage exactly if no event is in
  the last second of a day, after its start.
-/

import ScreenSync.Foundation.Grouping
import ScreenSync.Rest.Isolation

namespace ScreenSync.Rest

open ScreenSync.Foundation ScreenSync.Shared

/-! ### What the loop adds up -/

/-- What an event adds to the usage of its device. -/
def DeviceUsage.add (data : DeviceUsage) (e : UsageEvent) : DeviceUsage where
  total := data.total + e.durationSeconds
  byCategory :=
    accumulate UsageEvent.appCategory 0 (fun sum e => sum + e.durationSeconds) data.byCategory e

/-- The usage that events add up to. -/
def usageOf (events : List UsageEvent) : DeviceUsage where
  total := (events.map UsageEvent.durationSeconds).sum
  byCategory := tally UsageEvent.appCategory UsageEvent.durationSeconds events

/-- A turn of the loop adds an event to the usage of its device. -/
theorem addUsage_eq : addUsage = accumulate UsageEvent.deviceId ⟨0, []⟩ DeviceUsage.add := by
  funext perDevice e
  rfl

/-- The loop groups the events by device. -/
theorem foldl_addUsage (events : List UsageEvent) :
    events.foldl addUsage [] = grouped UsageEvent.deviceId ⟨0, []⟩ DeviceUsage.add events := by
  rw [addUsage_eq]
  rfl

theorem usageOf_concat (events : List UsageEvent) (e : UsageEvent) :
    usageOf (events ++ [e]) = (usageOf events).add e := by
  have total : ((events ++ [e]).map UsageEvent.durationSeconds).sum =
      (events.map UsageEvent.durationSeconds).sum + e.durationSeconds := by
    rw [List.map_append, List.sum_append, List.map_singleton, List.sum_singleton]
  have byCategory : tally UsageEvent.appCategory UsageEvent.durationSeconds (events ++ [e]) =
      accumulate UsageEvent.appCategory 0 (fun sum e => sum + e.durationSeconds)
        (tally UsageEvent.appCategory UsageEvent.durationSeconds events) e :=
    grouped_concat UsageEvent.appCategory 0 _ events e
  rw [usageOf, total, byCategory]
  rfl

/-- **The two accumulators keep in step.** -/
theorem foldl_add (events : List UsageEvent) :
    events.foldl DeviceUsage.add ⟨0, []⟩ = usageOf events := by
  induction events using List.reverseRecOn with
  | nil => rfl
  | append_singleton events e ih => rw [List.foldl_concat, ih, usageOf_concat]

/-- The usage with its categories in order. -/
def DeviceUsage.inOrder (data : DeviceUsage) : DeviceUsage :=
  { data with byCategory := data.byCategory.sorted }

/-- The order of the events makes no difference but to the order of the categories. -/
theorem usageOf_perm {first second : List UsageEvent} (perm : first.Perm second) :
    (usageOf first).inOrder = (usageOf second).inOrder := by
  have total := (perm.map UsageEvent.durationSeconds).sum_eq
  have byCategory : Dict.sorted (tally UsageEvent.appCategory UsageEvent.durationSeconds first) =
      Dict.sorted (tally UsageEvent.appCategory UsageEvent.durationSeconds second) :=
    (Dict.sorted_eq_iff (nodup_tally _ _ first)).mpr (tally_perm _ _ perm)
  exact congrArg₂ DeviceUsage.mk total byCategory

/-! ### The events of a window -/

/-- The bounds of `daily_summary`. -/
def InWindow (date : Date) (t : UtcTime) : Prop := UtcTime.midnight date ≤ t ∧ t ≤ lastSecond date

instance (date : Date) (t : UtcTime) : Decidable (InWindow date t) :=
  inferInstanceAs (Decidable (_ ∧ _))

/-- The user's devices, as `daily_summary` selects them. -/
def userDevices (user : UserId) (r : Registry) : List DeviceRow :=
  r.devices.rows.filter fun device => device.userId = user

/-- The usage events of the user's devices. -/
def userEvents (user : UserId) (r : Registry) : List UsageEvent :=
  r.usageEvents.rows.filter fun e => e.deviceId ∈ (userDevices user r).map DeviceRow.id

/-- The usage events that `daily_summary` selects. -/
def dailyEvents (user : UserId) (date : Date) (r : Registry) : List UsageEvent :=
  (userEvents user r).filter fun e => InWindow date e.recordedAt

/-- The item of a device. -/
def summaryItem (devices : List DeviceRow) (date : Date) (entry : DeviceId × DeviceUsage) :
    DailySummaryItem where
  deviceId := entry.1
  deviceName := match devices.find? fun device => device.id = entry.1 with
    | some device => device.name
    | none => "Unknown"
  date
  totalSeconds := entry.2.total
  byCategory := entry.2.byCategory

/-- The items of a summary. -/
def summaryItems (user : UserId) (date : Date) (r : Registry) : List DailySummaryItem :=
  ((dailyEvents user date r).foldl addUsage []).map (summaryItem (userDevices user r) date)

variable {user : UserId} {date : Date} {r : Registry}

theorem mem_userDevices {deviceId : DeviceId} :
    deviceId ∈ (userDevices user r).map DeviceRow.id ↔ Owns user r deviceId := by
  constructor
  · intro member
    obtain ⟨device, own, rfl⟩ := List.mem_map.mp member
    obtain ⟨row, owner⟩ := List.mem_filter.mp own
    exact ⟨device, Table.find_key row, of_decide_eq_true owner⟩
  · rintro ⟨device, found, owner⟩
    obtain ⟨row, rfl⟩ := Table.find_eq_some.mp found
    exact List.mem_map_of_mem (List.mem_filter.mpr ⟨row, decide_eq_true owner⟩)

theorem mem_userEvents {e : UsageEvent} :
    e ∈ userEvents user r ↔ e ∈ r.usageEvents.rows ∧ Owns user r e.deviceId := by
  unfold userEvents
  rw [List.mem_filter, decide_eq_true_iff, mem_userDevices]

theorem mem_dailyEvents {e : UsageEvent} :
    e ∈ dailyEvents user date r ↔ e ∈ userEvents user r ∧ InWindow date e.recordedAt := by
  unfold dailyEvents
  rw [List.mem_filter, decide_eq_true_iff]

/-- **What `daily_summary` returns.** -/
theorem exec_dailySummary (user : UserId) (date : Date) (r : Registry) :
    (dailySummary user date).exec r = (.ok (summaryItems user date r), r) := by
  have selected : r.usageEvents.rows.filter (fun e =>
      e.deviceId ∈ (userDevices user r).map DeviceRow.id ∧
        UtcTime.midnight date ≤ e.recordedAt ∧ e.recordedAt ≤ lastSecond date) =
      dailyEvents user date r := by
    unfold dailyEvents userEvents
    rw [List.filter_filter]
    refine List.filter_congr fun e _ => ?_
    rw [← Bool.decide_and, decide_eq_decide]
    exact and_comm
  rw [summaryItems, ← selected]
  rfl

/-! ### What a summary holds -/

/-- The items are one for each group. -/
theorem ids_summaryItems (user : UserId) (date : Date) (r : Registry) :
    (summaryItems user date r).map DailySummaryItem.deviceId =
      (grouped UsageEvent.deviceId ⟨0, []⟩ DeviceUsage.add (dailyEvents user date r)).map
        Prod.fst := by
  rw [summaryItems, foldl_addUsage, List.map_map]
  rfl

/-- The events of a device in a window, of one category. -/
def usageIn (date : Date) (deviceId : DeviceId) (category : String) (r : Registry) :
    List UsageEvent :=
  r.usageEvents.rows.filter fun e =>
    e.deviceId = deviceId ∧ InWindow date e.recordedAt ∧ e.appCategory = category

/-- For a device of the user these are the events that the loop adds up under the category. -/
theorem usageIn_eq {deviceId : DeviceId} (owns : Owns user r deviceId) (category : String) :
    ofKey UsageEvent.appCategory
        (ofKey UsageEvent.deviceId (dailyEvents user date r) deviceId) category =
      usageIn date deviceId category r := by
  unfold ofKey dailyEvents userEvents usageIn
  rw [List.filter_filter, List.filter_filter, List.filter_filter]
  refine List.filter_congr fun e _ => ?_
  rw [← Bool.decide_and, ← Bool.decide_and, ← Bool.decide_and, decide_eq_decide, mem_userDevices]
  constructor
  · rintro ⟨⟨⟨named, here⟩, inside⟩, -⟩
    exact ⟨here, inside, named⟩
  · rintro ⟨rfl, inside, named⟩
    exact ⟨⟨⟨named, rfl⟩, inside⟩, owns⟩

/-- The summary of a date adds up: one item for each device of the user with an event in the window,
under each category the sum of its durations, and in total the sum over the categories. -/
structure AddsUp (user : UserId) (date : Date) (r : Registry) (items : List DailySummaryItem) :
    Prop where
  oneEach : (items.map DailySummaryItem.deviceId).Nodup
  devices : ∀ deviceId, deviceId ∈ items.map DailySummaryItem.deviceId ↔
    Owns user r deviceId ∧
      ∃ e ∈ r.usageEvents.rows, e.deviceId = deviceId ∧ InWindow date e.recordedAt
  categories : ∀ item ∈ items, (item.byCategory.map Prod.fst).Nodup ∧
    ∀ category, item.byCategory.get category =
      if usageIn date item.deviceId category r = [] then none
      else some ((usageIn date item.deviceId category r).map UsageEvent.durationSeconds).sum
  total : ∀ item ∈ items, item.totalSeconds = (item.byCategory.map Prod.snd).sum

theorem mem_ids_summaryItems {deviceId : DeviceId} :
    deviceId ∈ (summaryItems user date r).map DailySummaryItem.deviceId ↔
      Owns user r deviceId ∧
        ∃ e ∈ r.usageEvents.rows, e.deviceId = deviceId ∧ InWindow date e.recordedAt := by
  rw [ids_summaryItems, mem_keys_grouped]
  constructor
  · rintro ⟨e, counted, rfl⟩
    obtain ⟨own, inside⟩ := mem_dailyEvents.mp counted
    obtain ⟨row, owns⟩ := mem_userEvents.mp own
    exact ⟨owns, e, row, rfl, inside⟩
  · rintro ⟨owns, e, row, rfl, inside⟩
    exact ⟨e, mem_dailyEvents.mpr ⟨mem_userEvents.mpr ⟨row, owns⟩, inside⟩, rfl⟩

/-- What an item holds is what the events of its device add up to. -/
theorem item_usage {item : DailySummaryItem} (member : item ∈ summaryItems user date r) :
    ⟨item.totalSeconds, item.byCategory⟩ =
      usageOf (ofKey UsageEvent.deviceId (dailyEvents user date r) item.deviceId) := by
  obtain ⟨entry, inside, rfl⟩ := List.mem_map.mp member
  rw [foldl_addUsage] at inside
  have usage := eq_of_mem_grouped _ _ _ inside
  rw [foldl_add] at usage
  exact usage

/-- An item carries the name of its device; no device of a summary is unknown. -/
theorem item_named {item : DailySummaryItem} (member : item ∈ summaryItems user date r) :
    ∃ device, r.devices.find item.deviceId = some device ∧ item.deviceName = device.name := by
  obtain ⟨device, found, owner⟩ := (mem_ids_summaryItems.mp (List.mem_map_of_mem member)).1
  obtain ⟨entry, -, rfl⟩ := List.mem_map.mp member
  obtain ⟨row, here⟩ := Table.find_eq_some.mp found
  have own : device ∈ userDevices user r := List.mem_filter.mpr ⟨row, decide_eq_true owner⟩
  have looked : (userDevices user r).find? (fun device => device.id = entry.1) = some device := by
    cases other : (userDevices user r).find? fun device => device.id = entry.1 with
    | none => exact absurd (decide_eq_true here) (List.find?_eq_none.mp other device own)
    | some second =>
      have listed := List.mem_filter.mp (List.mem_of_find?_eq_some other)
      have same : second.id = entry.1 := by simpa using List.find?_some other
      rw [r.devices.eq_of_key_eq listed.1 row (same.trans here.symm)]
  refine ⟨device, found, ?_⟩
  show (match (userDevices user r).find? fun device => device.id = entry.1 with
    | some device => device.name
    | none => "Unknown") = device.name
  rw [looked]

theorem summaryItems_addsUp (user : UserId) (date : Date) (r : Registry) :
    AddsUp user date r (summaryItems user date r) where
  oneEach := by
    rw [ids_summaryItems]
    exact nodup_grouped _ _ _ _
  devices deviceId := mem_ids_summaryItems
  categories item member := by
    have owns := (mem_ids_summaryItems.mp (List.mem_map_of_mem member)).1
    have usage := (DeviceUsage.mk.inj (item_usage member)).2
    refine ⟨usage ▸ nodup_tally _ _ _, fun category => ?_⟩
    rw [usage, get_tally, usageIn_eq owns]
  total item member := by
    obtain ⟨total, byCategory⟩ := DeviceUsage.mk.inj (item_usage member)
    rw [total, byCategory, sum_tally]

/-- The item with its categories in order. -/
def DailySummaryItem.inOrder (item : DailySummaryItem) : DailySummaryItem :=
  { item with byCategory := item.byCategory.sorted }

/-- The items do not depend on the order in which the events are fetched, but for their own order
and that of their categories. -/
def OrderFree (user : UserId) (date : Date) (r : Registry) (items : List DailySummaryItem) : Prop :=
  ∀ next : Registry, next.devices = r.devices →
    next.usageEvents.rows.Perm r.usageEvents.rows →
      ∃ others, (dailySummary user date).exec next = (.ok others, next) ∧
        (others.map DailySummaryItem.inOrder).Perm (items.map DailySummaryItem.inOrder)

theorem summaryItems_orderFree (user : UserId) (date : Date) (r : Registry) :
    OrderFree user date r (summaryItems user date r) := by
  intro next devices events
  refine ⟨summaryItems user date next, exec_dailySummary user date next, ?_⟩
  have same : userDevices user next = userDevices user r := by
    rw [userDevices, devices, userDevices]
  have perm : (dailyEvents user date next).Perm (dailyEvents user date r) := by
    unfold dailyEvents userEvents
    rw [same]
    exact (events.filter _).filter _
  have within : ∀ {first second : List UsageEvent}, first.Perm second →
      (first.foldl DeviceUsage.add ⟨0, []⟩).inOrder =
        (second.foldl DeviceUsage.add ⟨0, []⟩).inOrder := fun perm => by
    rw [foldl_add, foldl_add, usageOf_perm perm]
  have groups := (grouped_perm UsageEvent.deviceId _ _ DeviceUsage.inOrder within perm).map
    (summaryItem (userDevices user r) date)
  rw [summaryItems, summaryItems, same, foldl_addUsage, foldl_addUsage]
  rw [List.map_map, List.map_map] at groups ⊢
  exact groups

/-- **A summary adds up**, whatever the order of the events. -/
theorem daily_adds_up (user : UserId) (date : Date) (r : Registry) :
    ∃ items, (dailySummary user date).exec r = (.ok items, r) ∧ AddsUp user date r items ∧
      OrderFree user date r items :=
  ⟨summaryItems user date r, exec_dailySummary user date r, summaryItems_addsUp user date r,
    summaryItems_orderFree user date r⟩

/-! ### All dates -/

instance : Fintype Date :=
  Fintype.ofEquiv (Fin calendarDays)
    ⟨fun day => ⟨day.1, day.2⟩, fun date => ⟨date.days, date.inRange⟩, fun _ => rfl, fun _ => rfl⟩

/-- 23:59:59 sharp, the last time of day in a window. -/
def lastCounted : Nat := timeOfDay 23 59 + 59000000

/-- **What a window holds.** -/
theorem inWindow_iff {t : UtcTime} : InWindow date t ↔ t.date = date ∧ t.time ≤ lastCounted := by
  have bounds : InWindow date t ↔ date.days * dayMicros ≤ t.micros ∧
      t.micros ≤ date.days * dayMicros + 86399000000 := Iff.rfl
  have place : t.date = date ↔ t.micros / dayMicros = date.days := by
    refine ⟨congrArg Date.days, fun same => ?_⟩
    cases date
    exact Date.mk.injEq .. |>.mpr same
  have last : lastCounted = 86399000000 := rfl
  rw [bounds, place, UtcTime.time, last]
  simp only [dayMicros]
  omega

/-- The seconds in the summary of a date, over all its items. -/
def dailyTotal (user : UserId) (date : Date) (r : Registry) : Int :=
  match ((dailySummary user date).exec r).1 with
  | .ok items => (items.map DailySummaryItem.totalSeconds).sum
  | .error _ => 0

theorem dailyTotal_eq (user : UserId) (date : Date) (r : Registry) :
    dailyTotal user date r = ((dailyEvents user date r).map UsageEvent.durationSeconds).sum := by
  rw [dailyTotal, exec_dailySummary]
  show ((summaryItems user date r).map DailySummaryItem.totalSeconds).sum = _
  rw [summaryItems, foldl_addUsage, List.map_map]
  exact sum_grouped UsageEvent.deviceId _ _ DeviceUsage.total _ rfl (fun _ _ => rfl) _

/-- Each event of the user's devices is counted in the summary of exactly one date, and the totals
of all summaries are the sum of all durations. -/
structure Partitioned (user : UserId) (r : Registry) : Prop where
  counted : ∀ e ∈ userEvents user r, ∃! date, e ∈ dailyEvents user date r
  total : ∑ date, dailyTotal user date r =
    ((userEvents user r).map UsageEvent.durationSeconds).sum

/-- An event is counted under its own date, and only up to 23:59:59. -/
theorem mem_dailyEvents_iff {e : UsageEvent} (own : e ∈ userEvents user r) :
    e ∈ dailyEvents user date r ↔ e.recordedAt.date = date ∧ e.recordedAt.time ≤ lastCounted := by
  rw [mem_dailyEvents, and_iff_right own, inWindow_iff]

/-- **The daily summaries partition the usage** exactly if no event of the user's devices is later
than 23:59:59 in its day. -/
theorem daily_partition_iff (user : UserId) (r : Registry) :
    Partitioned user r ↔ ∀ e ∈ userEvents user r, e.recordedAt.time ≤ lastCounted := by
  constructor
  · intro partitioned e own
    obtain ⟨date, counted, -⟩ := partitioned.counted e own
    exact ((mem_dailyEvents_iff own).mp counted).2
  · intro early
    have listed : ∀ date, dailyEvents user date r =
        (userEvents user r).filter fun e => e.recordedAt.date = date := by
      intro date
      unfold dailyEvents
      refine List.filter_congr fun e own => ?_
      rw [decide_eq_decide, inWindow_iff, and_iff_left (early e own)]
    refine ⟨fun e own => ⟨e.recordedAt.date, ?_, ?_⟩, ?_⟩
    · exact (mem_dailyEvents_iff own).mpr ⟨rfl, early e own⟩
    · intro other counted
      exact ((mem_dailyEvents_iff own).mp counted).1.symm
    · have totals : ∀ date, dailyTotal user date r =
          (((userEvents user r).filter fun e => e.recordedAt.date = date).map
            UsageEvent.durationSeconds).sum := fun date => by rw [dailyTotal_eq, listed]
      rw [Finset.sum_congr rfl fun date _ => totals date]
      exact sum_filter_eq UsageEvent.durationSeconds (fun e => e.recordedAt.date) _

/-- A minute of use on the family's tablet, reported half a second before midnight. -/
def lateMinute : UsageEvent where
  id := 1
  deviceId := tablet.id
  appCategory := "social"
  durationSeconds := 60
  recordedAt := ⟨someDay.days * dayMicros + 86399500000, by decide⟩

/-- The family's tablet, with that minute. -/
def lateRegistry : Registry where
  devices := Table.empty.insert
    { id := tablet.id
      userId := tablet.userId
      name := "Tablet"
      type := "tablet"
      priority := 1
      lastHeartbeat := none
      isOnline := true
      registeredAt := UtcTime.midnight someDay } rfl
  usageEvents := Table.empty.insert lateMinute rfl
  budgets := .empty
  redis _ := none

/-- The minute is in no summary. -/
theorem late_minute_uncounted : ¬ Partitioned tablet.userId lateRegistry := by
  intro partitioned
  have own : lateMinute ∈ userEvents tablet.userId lateRegistry := by decide
  obtain ⟨date, counted, -⟩ := partitioned.counted lateMinute own
  exact absurd ((mem_dailyEvents_iff own).mp counted).2 (by decide)

end ScreenSync.Rest
