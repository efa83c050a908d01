import Mathlib
import NavStream.Time.Gps

/-!
# Whole seconds of GPS time and of UTC

A table tells from which UTC second on GPS time was ahead by how much, but it is looked up with a
count of GPS seconds, from the latest entry on. That both fit together is due to the table alone:
its entries follow each other in time, and each one adds a single second. So what is found is the
number of entries that have come, every second of UTC is reached, and the count of UTC stands still
just at those seconds at which an entry begins.

* `Steady` — tables whose entries follow each other and add one second each;
* `Steady.leadIn_eq` — what is found in a table is the number of entries that have come;
* `Steady.leapsBy_add` — entries that are told apart by UTC are told apart by GPS time;
* `Steady.leapsBy_succ` — an entry comes at the second at which it begins, and no other one does;
* `leapSeconds_eq` — the leap seconds in these terms;
* `unixOfGps_laws` — what this means for the seconds of UTC.
-/

namespace NavStream.Time

variable {table : List (Int × Nat)} {entry last : Int × Nat}

/-! ## Tables of leap seconds -/

/-- The second at which an entry begins, counted without leap seconds. -/
def beginning (entry : Int × Nat) : Int := entry.1 + entry.2

/-- How many entries of a table have begun by a second that is counted without leap seconds. -/
def leapsBy (table : List (Int × Nat)) (second : Int) : Nat :=
  table.countP fun entry => beginning entry ≤ second

/-- What has begun has begun later on as well. -/
theorem leapsBy_mono (table : List (Int × Nat)) : Monotone (leapsBy table) := by
  intro earlier later hle
  refine List.countP_mono_left fun entry _ hbegun => ?_
  exact decide_eq_true (Int.le_trans (of_decide_eq_true hbegun) hle)

/-- By the next second those entries have begun as well that begin then. -/
theorem leapsBy_add_count (table : List (Int × Nat)) (second : Int) :
    leapsBy table (second + 1) =
      leapsBy table second + (table.map beginning).count (second + 1) := by
  unfold leapsBy
  induction table with
  | nil => rfl
  | cons entry rest ih =>
    have hentry : (if beginning entry ≤ second + 1 then 1 else 0) =
        (if beginning entry ≤ second then 1 else 0) +
          if beginning entry = second + 1 then 1 else 0 := by
      split <;> split <;> split <;> omega
    simp only [List.countP_cons, List.map_cons, List.count_cons, ih, decide_eq_true_eq, beq_iff_eq,
      hentry]
    omega

/-- The lead that the latest entry tells which has begun by a second. -/
def leadIn (table : List (Int × Nat)) (second : Int) : Nat :=
  ((table.reverse.find? fun entry => beginning entry ≤ second).map Prod.snd).getD 0

/-- The entries of a table follow each other in time, and each one adds a second. -/
structure Steady (table : List (Int × Nat)) : Prop where
  /-- The entries are numbered from one on. -/
  numbered : table.map Prod.snd = List.range' 1 table.length
  /-- Each entry is later than those before it. -/
  ordered : table.Pairwise fun earlier later => earlier.1 < later.1

namespace Steady

/-- The lead of an entry is no more than the number of entries. -/
theorem snd_le_length (h : Steady table) (hmem : entry ∈ table) : entry.2 ≤ table.length := by
  have hnumber : entry.2 ∈ List.range' 1 table.length := by
    rw [← h.numbered]
    exact List.mem_map_of_mem hmem
  obtain ⟨-, hlt⟩ := List.mem_range'_1.1 hnumber
  omega

/-- The last entry adds a second to a table that is steady too, all of which is earlier. -/
theorem of_concat (h : Steady (table ++ [last])) :
    Steady table ∧ last.2 = table.length + 1 ∧ ∀ entry ∈ table, entry.1 < last.1 := by
  obtain ⟨hbefore, -, hlast⟩ := List.pairwise_append.1 h.ordered
  have hnumbers := h.numbered
  rw [List.map_append, List.length_append, List.length_singleton, List.range'_1_concat] at hnumbers
  obtain ⟨htable, hnumber⟩ := List.append_inj' hnumbers rfl
  refine ⟨⟨htable, hbefore⟩, ?_, fun entry hmem => hlast entry hmem last List.mem_cons_self⟩
  rw [List.cons.inj hnumber |>.1, Nat.add_comm]

/-- Once the last entry has begun all of them have. -/
theorem beginning_lt (h : Steady (table ++ [last])) (hmem : entry ∈ table) :
    beginning entry < beginning last := by
  obtain ⟨htable, hnumber, hbefore⟩ := h.of_concat
  have hearlier := hbefore entry hmem
  have hlead := htable.snd_le_length hmem
  unfold beginning
  omega

/-- **What is found in a table is the number of entries that have begun.** -/
theorem leadIn_eq (h : Steady table) (second : Int) : leadIn table second = leapsBy table second := by
  induction table using List.reverseRecOn with
  | nil => rfl
  | append_singleton table last ih =>
    obtain ⟨htable, hnumber, -⟩ := h.of_concat
    unfold leadIn leapsBy at ih ⊢
    rw [List.reverse_concat, List.find?_cons, List.countP_append, List.countP_singleton]
    by_cases hlast : beginning last ≤ second
    · have hall : table.countP (fun entry => beginning entry ≤ second) = table.length := by
        rw [List.countP_eq_length]
        intro entry hmem
        have hbefore := h.beginning_lt hmem
        exact decide_eq_true (by omega)
      simp [hlast, hall, hnumber]
    · simp [hlast, ih htable]

/-- **Entries are told apart by UTC as they are by GPS time**, which is ahead of it by as many
seconds as entries have come. -/
theorem leapsBy_add (h : Steady table) (unix : Int) :
    leapsBy table (unix + table.countP fun entry => entry.1 ≤ unix) =
      table.countP fun entry => entry.1 ≤ unix := by
  induction table using List.reverseRecOn with
  | nil => rfl
  | append_singleton table last ih =>
    obtain ⟨htable, hnumber, hbefore⟩ := h.of_concat
    have hcount := List.countP_le_length (p := fun entry : Int × Nat => entry.1 ≤ unix) (l := table)
    unfold leapsBy at ih ⊢
    rw [List.countP_append, List.countP_append, List.countP_singleton, List.countP_singleton]
    by_cases hlast : last.1 ≤ unix
    · -- all entries have come, the last one with a lead of their number
      have hutc : table.countP (fun entry => entry.1 ≤ unix) = table.length := by
        rw [List.countP_eq_length]
        intro entry hmem
        have hearlier := hbefore entry hmem
        exact decide_eq_true (by omega)
      have hbegun : beginning last ≤ unix + (table.length + 1 : Nat) := by
        unfold beginning
        omega
      have hall : table.countP (fun entry => beginning entry ≤ unix + (table.length + 1 : Nat)) =
          table.length := by
        rw [List.countP_eq_length]
        intro entry hmem
        have hearlier := h.beginning_lt hmem
        exact decide_eq_true (by omega)
      simp only [hlast, decide_true, if_true, hutc, hall, hbegun]
    · -- the last entry has not come, and its lead is more than what has
      have hnot : ¬beginning last ≤
          unix + (table.countP (fun entry => entry.1 ≤ unix) : Nat) := by
        unfold beginning
        omega
      simp only [hlast, decide_false, Bool.false_eq_true, if_false, Nat.add_zero, hnot, ih htable]

/-- No two entries begin at the same second. -/
theorem nodup_beginnings (h : Steady table) : (table.map beginning).Nodup := by
  induction table using List.reverseRecOn with
  | nil => exact List.nodup_nil
  | append_singleton table last ih =>
    rw [List.map_append, List.map_singleton, ← List.concat_eq_append]
    refine (ih h.of_concat.1).concat ?_
    intro hmem
    obtain ⟨entry, hentry, hsame⟩ := List.mem_map.1 hmem
    exact absurd hsame (Int.ne_of_lt (h.beginning_lt hentry))

/-- **By the next second one more entry has begun if one begins then**, and never more than one. -/
theorem leapsBy_succ (h : Steady table) (second : Int) :
    leapsBy table (second + 1) =
      leapsBy table second + if second + 1 ∈ table.map beginning then 1 else 0 := by
  rw [leapsBy_add_count, h.nodup_beginnings.count]

end Steady

/-! ## The leap seconds -/

/-- The table of leap seconds is steady. -/
theorem steady_leapTable : Steady leapTable where
  numbered := by decide
  ordered := by decide

/-- **The leap seconds are the entries that have begun.** -/
theorem leapSeconds_eq (gps : Int) : leapSeconds gps = leapsBy leapTable (gpsEpoch + gps) := by
  rw [← steady_leapTable.leadIn_eq]
  unfold leapSeconds leadIn beginning
  cases leapTable.reverse.find? fun entry => entry.1 + entry.2 ≤ gpsEpoch + gps <;> rfl

/-- The next second of UTC is the same one where an entry begins, and one more elsewhere. -/
theorem unixOfGps_succ (gps : Int) :
    unixOfGps (gps + 1) =
      unixOfGps gps + if gpsEpoch + gps + 1 ∈ leapTable.map beginning then 0 else 1 := by
  have hnext := steady_leapTable.leapsBy_succ (gpsEpoch + gps)
  unfold unixOfGps
  rw [leapSeconds_eq, leapSeconds_eq, ← Int.add_assoc, hnext]
  split <;> omega

/-- The seconds of UTC never run backwards. -/
theorem unixOfGps_mono : Monotone unixOfGps := by
  refine monotone_int_of_le_succ fun gps => ?_
  rw [unixOfGps_succ]
  split <;> omega

/-- **Every second of UTC is reached**, from as many GPS seconds later as entries have come by it. -/
theorem unixOfGps_of_unix (unix : Int) :
    unixOfGps (unix - gpsEpoch + leapTable.countP fun entry => entry.1 ≤ unix) = unix := by
  have hsecond : gpsEpoch + (unix - gpsEpoch + leapTable.countP fun entry => entry.1 ≤ unix) =
      unix + leapTable.countP fun entry => entry.1 ≤ unix := by
    omega
  unfold unixOfGps
  rw [leapSeconds_eq, hsecond, steady_leapTable.leapsBy_add]
  omega

/-- The instant of a count is at the second that belongs to the whole part of the count. -/
theorem unix_of_gpsToUtc {gps : Float} {instant : Instant} (h : gpsToUtc gps = some instant) :
    instant.unix = unixOfGps gps.floor.toInt64.toInt := by
  obtain ⟨-, hfinite⟩ := Option.ite_none_left_eq_some.1 h
  obtain ⟨-, hinstant⟩ := Option.ite_none_right_eq_some.1 hfinite
  rw [← Option.some.inj hinstant]

/-- **GPS seconds and those of UTC.** The leap seconds are the number of entries of the table that
have begun, and never get less. From one GPS second to the next the second of UTC is the same or the
next one, and it is the same just at those at which an entry begins; so UTC never runs backwards. No
second of UTC is left out: each one is that of the GPS second which is later by as many seconds as
entries have come. These are the seconds at which instants are given. -/
theorem unixOfGps_laws :
    (∀ gps, leapSeconds gps =
      leapTable.countP fun (utc, leaps) => utc + leaps ≤ gpsEpoch + gps) ∧
    Monotone leapSeconds ∧
    (∀ gps, unixOfGps (gps + 1) = unixOfGps gps ∨ unixOfGps (gps + 1) = unixOfGps gps + 1) ∧
    (∀ gps, unixOfGps (gps + 1) = unixOfGps gps ↔
      ∃ entry ∈ leapTable, gpsEpoch + gps + 1 = entry.1 + entry.2) ∧
    Monotone unixOfGps ∧
    (∀ unix, unixOfGps (unix - gpsEpoch + leapTable.countP fun entry => entry.1 ≤ unix) = unix) ∧
    ∀ gps instant, gpsToUtc gps = some instant →
      instant.unix = unixOfGps gps.floor.toInt64.toInt := by
  refine ⟨leapSeconds_eq, ?_, ?_, ?_, unixOfGps_mono, unixOfGps_of_unix,
    fun gps instant h => unix_of_gpsToUtc h⟩
  · intro earlier later hle
    rw [leapSeconds_eq, leapSeconds_eq]
    exact leapsBy_mono leapTable (Int.add_le_add_left hle gpsEpoch)
  · intro gps
    rw [unixOfGps_succ]
    split <;> omega
  · intro gps
    have hbegins : (∃ entry ∈ leapTable, gpsEpoch + gps + 1 = entry.1 + entry.2) ↔
        gpsEpoch + gps + 1 ∈ leapTable.map beginning := by
      simp only [List.mem_map, beginning, eq_comm]
    rw [hbegins, unixOfGps_succ]
    by_cases hmem : gpsEpoch + gps + 1 ∈ leapTable.map beginning
    · exact iff_of_true (by rw [if_pos hmem, Int.add_zero]) hmem
    · exact iff_of_false (by rw [if_neg hmem]; omega) hmem

end NavStream.Time
