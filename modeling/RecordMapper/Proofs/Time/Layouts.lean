import RecordMapper.Proofs.Catalog.Defaults
import RecordMapper.Proofs.Time.Timeline

namespace RecordMapper.Timestamp

open Numeral Text

def writeTime (t : Timestamp) : List Char :=
  writeClock t ++ '.' :: padded 6 (t.nanosecond % 1000000000 / 1000)

def writeJoined (t : Timestamp) : List Char := writeDate t.date ++ 'T' :: writeTime t

theorem write_eq (t : Timestamp) : t.write = writeDate t.date ++ ' ' :: writeTime t := by
  simp [write, writeTime]

section characters

variable {P : Char → Prop} (hdigit : ∀ c : Char, c.isDigit = true → P c)

include hdigit

theorem forall_mem_padded (w n : Nat) : ∀ c ∈ padded w n, P c :=
  fun c hc => hdigit c (isDigit_of_mem_padded hc)

theorem forall_mem_writeYear (hminus : P '-') (hplus : P '+') (year : Int) :
    ∀ c ∈ writeYear year, P c := by
  rw [writeYear]
  split
  · exact forall_mem_padded hdigit _ _
  · refine List.forall_mem_cons.2 ⟨?_, forall_mem_padded hdigit _ _⟩
    split
    · exact hminus
    · exact hplus

theorem forall_mem_writeDate (hminus : P '-') (hplus : P '+') (d : Date) :
    ∀ c ∈ writeDate d, P c := by
  have hpart : ∀ n, ∀ c ∈ '-' :: padded 2 n, P c := fun n =>
    List.forall_mem_cons.2 ⟨hminus, forall_mem_padded hdigit 2 n⟩
  exact List.forall_mem_append.2 ⟨List.forall_mem_append.2
    ⟨forall_mem_writeYear hdigit hminus hplus d.year, hpart d.month⟩, hpart d.day⟩

theorem forall_mem_writeClock (hcolon : P ':') (t : Timestamp) : ∀ c ∈ writeClock t, P c := by
  have hpart : ∀ n, ∀ c ∈ ':' :: padded 2 n, P c := fun n =>
    List.forall_mem_cons.2 ⟨hcolon, forall_mem_padded hdigit 2 n⟩
  exact List.forall_mem_append.2 ⟨List.forall_mem_append.2
    ⟨forall_mem_padded hdigit 2 t.hour, hpart t.minute⟩, hpart t.clockSecond⟩

end characters

theorem replace_write (t : Timestamp) : t.write.replace ' ' 'T' = t.writeJoined := by
  have hdate : ' ' ∉ writeDate t.date := fun h =>
    forall_mem_writeDate (P := (· ≠ ' ')) (fun c hc => by rintro rfl; contradiction) (by decide)
      (by decide) t.date ' ' h rfl
  rw [write_eq, List.replace_append_right hdate, List.replace_cons_self, writeJoined]

theorem head_writeDate (d : Date) : ∃ c cs, writeDate d = c :: cs ∧ isBlank c = false := by
  obtain ⟨c, cs, hyear, hc⟩ := head_writeYear d.year
  exact ⟨c, _, by rw [writeDate, hyear]; rfl, hc⟩

theorem last_writeTime (t : Timestamp) :
    ∃ c, (writeTime t).getLast? = some c ∧ isBlank c = false := by
  have hne := padded_ne_nil 6 (t.nanosecond % 1000000000 / 1000)
  refine ⟨_, ?_, isBlank_of_isDigit (isDigit_of_mem_padded (List.getLast_mem hne))⟩
  rw [writeTime, List.getLast?_append, List.getLast?_cons_of_ne_nil hne,
    List.getLast?_eq_some_getLast hne]
  rfl

theorem trim_around (t : Timestamp) (sep : Char) {lead trail : List Char} (hlead : AllBlank lead)
    (htrail : AllBlank trail) :
    trim (lead ++ (writeDate t.date ++ sep :: writeTime t) ++ trail) =
      writeDate t.date ++ sep :: writeTime t := by
  have hstart : trimStart ((writeDate t.date ++ sep :: writeTime t) ++ trail) =
      (writeDate t.date ++ sep :: writeTime t) ++ trail := by
    obtain ⟨first, cs, hdate, hfirst⟩ := head_writeDate t.date
    rw [hdate]
    exact trimStart_eq_self fun c hc => Option.some.inj hc ▸ hfirst
  have hend : trimEnd (writeDate t.date ++ sep :: writeTime t) =
      writeDate t.date ++ sep :: writeTime t := by
    obtain ⟨last, hlast, hblank⟩ := last_writeTime t
    refine trimEnd_eq_self fun c hc => ?_
    rw [List.getLast?_append, List.getLast?_cons, hlast] at hc
    exact Option.some.inj hc ▸ hblank
  rw [trim, List.append_assoc, trimStart_append lead _ hlead, hstart,
    trimEnd_append _ trail htrail, hend]

theorem readSpaced_joined (t : Timestamp) : readSpaced? t.writeJoined = none := by
  have hletter : trimStart ('T' :: writeTime t) = 'T' :: writeTime t := rfl
  rw [readSpaced?, writeJoined, readDate_writeDate]
  simp only [Option.bind_eq_bind, Option.bind_some, hletter]
  rfl

theorem readJoined_joined (t : Timestamp) : readJoined? t.writeJoined = some (t.kept, []) := by
  have htime : readTime? t.date (writeTime t) = some (t.kept, []) := readTime_write t
  rw [readJoined?, writeJoined, readDate_writeDate]
  simp only [Option.bind_eq_bind, Option.bind_some, expect?, if_true, htime]

theorem read_around_write (t : Timestamp) {lead trail : List Char} (hlead : AllBlank lead)
    (htrail : AllBlank trail) : read? (lead ++ t.write ++ trail) = some t.kept := by
  have hread := t.read_write
  rw [read?, t.trim_write] at hread
  rw [read?, write_eq, t.trim_around ' ' hlead htrail, ← write_eq, hread]

theorem read_around_joined (t : Timestamp) {lead trail : List Char} (hlead : AllBlank lead)
    (htrail : AllBlank trail) : read? (lead ++ t.writeJoined ++ trail) = some t.kept := by
  rw [read?, writeJoined, t.trim_around 'T' hlead htrail, ← writeJoined, readSpaced_joined,
    readJoined_joined]
  rfl

theorem readQuoted_literal (t : Timestamp) (d : Dialect) :
    readQuoted? '\'' (d.literal (.timestamp t)).toList =
      some ((Value.timestamp t).display.toList, []) := by
  have hread := readQuoted_quoted '\'' (Value.timestamp t).display.toList [] nofun
  rwa [List.append_nil, ← toList_quoteText] at hread

/-- What is displayed of a timestamp and what its literal says in each dialect, with the space kept
or replaced by a letter and within white space of any length, is read as the timestamp cut to
microseconds, if it is regular. If not, it is read as the clock shows it, which is the same place on
the line of time. To cut always succeeds, once is enough, and it takes a timestamp back by less than
a microsecond, if at all. -/
theorem reads_kept (t : Timestamp) {lead trail : List Char} (hlead : AllBlank lead)
    (htrail : AllBlank trail) :
    read? (lead ++ (Value.timestamp t).display.toList ++ trail) = some t.kept ∧
      read? (lead ++ (Value.timestamp t).display.toList.replace ' ' 'T' ++ trail) = some t.kept ∧
      (t.kept = t.toMicros ↔ t.Regular) ∧
      (∀ d : Dialect, readQuoted? '\'' (d.literal (.timestamp t)).toList =
        some ((Value.timestamp t).display.toList, [])) ∧
      t.withNanosecond? (t.nanosecond / 1000 * 1000) = some t.toMicros ∧
      t.toMicros.toMicros = t.toMicros ∧
      (t.toMicros.order t).isLE = true ∧
      (t.toMicros.instant ≤ t.instant ∧ t.instant < t.toMicros.instant + 1000) ∧
      t.kept.instant ≤ t.instant ∧ t.instant < t.kept.instant + 1000 := by
  have hdisplay : (Value.timestamp t).display.toList = t.write := String.toList_ofList
  rw [hdisplay, replace_write]
  exact ⟨t.read_around_write hlead htrail, t.read_around_joined hlead htrail, t.kept_eq_iff,
    hdisplay ▸ t.readQuoted_literal, t.withNanosecond_cut, t.toMicros_toMicros, t.order_toMicros,
    t.instant_toMicros, t.instant_kept⟩

end RecordMapper.Timestamp

namespace RecordMapper.Sample

def ides : Timestamp := (moment? (-43) 3 15 23 59 59 1999999999).get (by decide)

theorem ides_read :
    (Text.AllBlank "\t ".toList ∧ Text.AllBlank "\n".toList) ∧
      (Value.timestamp ides).display = "-0043-03-15 23:59:60.999999" ∧
      Timestamp.read? "\t -0043-03-15T23:59:60.999999\n".toList = some ides.toMicros ∧
      ides.toMicros.instant ≤ ides.instant ∧ ides.instant < ides.toMicros.instant + 1000 := by
  have hlead : Text.AllBlank "\t ".toList := by decide
  have htrail : Text.AllBlank "\n".toList := by decide
  have hdisplay : (Value.timestamp ides).display = "-0043-03-15 23:59:60.999999" := by
    decide +kernel
  obtain ⟨-, hjoined, hregular, -, -, -, -, hinstant, -⟩ := Timestamp.reads_kept ides hlead htrail
  rw [hdisplay, hregular.2 (by decide)] at hjoined
  exact ⟨⟨hlead, htrail⟩, hdisplay, hjoined, hinstant⟩

theorem straggler_moved :
    (Value.timestamp straggler).display = "2024-01-02 23:56:05.333333" ∧
      Timestamp.read? (Value.timestamp straggler).display.toList = some stragglerShown ∧
      Timestamp.read? (Value.timestamp straggler).display.toList ≠ some straggler.toMicros := by
  decide +kernel

end RecordMapper.Sample
