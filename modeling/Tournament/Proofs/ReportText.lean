import Tournament.Proofs.JsonText
import Tournament.Proofs.Slots
import Tournament.Report.Json

/-!
# Reports read back

Each part of a report is written so that its reader finds it again, and as a plain value, so that
the value is also read back from its text.  Both facts together are the round trip of a part
(`Faithful`); lists and optional parts keep it, so it carries from texts and kinds up to reports.
-/

namespace Tournament

namespace Json

/-- What is written is plain, and its reader finds it again. -/
structure Faithful {α : Type} (write : α → Json) (read : Json → Option α) : Prop where
  plain : ∀ a, (write a).Plain
  read_write : ∀ a, read (write a) = some a

namespace Faithful

variable {α : Type} {write : α → Json} {read : Json → Option α}

theorem readEach_map (h : Faithful write read) (as : List α) :
    readEach read (as.map write) = some as := by
  induction as with
  | nil => rfl
  | cons a as ih =>
      rw [List.map_cons, readEach, h.read_write, ih]
      rfl

theorem list (h : Faithful write read) :
    Faithful (fun as => .list (as.map write)) (toList? read) where
  plain as := .list (List.forall_mem_map.mpr fun a _ => h.plain a)
  read_write as := by rw [toList?, h.readEach_map]

theorem option (h : Faithful write read) (hnull : ∀ a, write a ≠ .null) :
    Faithful (ofOption write) (toOption? read) where
  plain
    | none => .null
    | some a => h.plain a
  read_write
    | none => rfl
    | some a => by
        rw [ofOption, toOption?, h.read_write]
        · rfl
        · exact hnull a

theorem text : Faithful .text toText? where
  plain := .text
  read_write _ := rfl

end Faithful

theorem ofDigits_toDigits (n : Nat) : Number.ofDigits (Nat.toDigits 10 n) = n := by
  have h : ∀ ds, Number.ofDigits ds = Nat.ofDigitChars 10 ds 0 := fun ds => by
    rw [Nat.ofDigitChars_eq_foldl]
    rfl
  rw [h, Nat.ofDigitChars_ten_toDigits]

theorem writes_toDigits (n : Nat) : Number.Writes (Nat.toDigits 10 n) n :=
  ⟨_, .inl rfl, Nat.toDigits_ne_nil, fun _ => isDigit_of_mem_toDigits, ofDigits_toDigits n⟩

theorem faithful_uInt32 : Faithful (fun n : UInt32 => ofNat n.toNat) toUInt32? where
  plain n := .number n.toNat
  read_write n := by
    have hdigits : (Nat.toDigits 10 n.toNat).all Char.isDigit = true :=
      List.all_eq_true.mpr fun _ => isDigit_of_mem_toDigits
    have hread := Number.readNatural_eq_some_iff.mpr
      ⟨writes_toDigits n.toNat, n.toNat_lt_size⟩
    rw [ofNat, toUInt32?, if_pos hdigits, hread, Option.map_some, UInt32.ofNat_toNat]

theorem faithful_roundKind : Faithful ofRoundKind toRoundKind? where
  plain k := .text k.tag
  read_write k := by cases k <;> decide

theorem faithful_winner : Faithful ofWinner toWinner? where
  plain
    | .team _ | .player _ => .object (by simp [member]) (by simp [member, Plain.text])
    | .nobody => .text _
  read_write
    | .team letter => by simp [ofWinner, member, toWinner?, toChar?]
    | .player _ | .nobody => rfl

theorem ofWinner_ne_null (w : Winner) : ofWinner w ≠ .null := by
  cases w <;> nofun

theorem faithful_arena : Faithful (ofOption Json.text) (toOption? toText?) :=
  Faithful.text.option nofun

theorem faithful_outcome : Faithful (ofOption ofWinner) (toOption? toWinner?) :=
  faithful_winner.option ofWinner_ne_null

theorem fields?_ofEventReport (e : EventReport) :
    (ofEventReport e).fields? ["event_type", "text", "players", "eliminated"] =
      some [some (ofRoundKind e.kind), some (.text e.text), some (ofTexts e.players),
        some (ofTexts e.eliminated)] :=
  rfl

theorem faithful_eventReport : Faithful ofEventReport toEventReport? where
  plain e := .object (by simp [member]) <| by
    simp [member, faithful_roundKind.plain, Faithful.text.plain, ofTexts,
      Faithful.text.list.plain]
  read_write e := by
    rw [toEventReport?, fields?_ofEventReport]
    simp [faithful_roundKind.read_write, Faithful.text.read_write, ofTexts,
      Faithful.text.list.read_write]

theorem fields?_ofRoundReport (r : RoundReport) :
    (ofRoundReport r).fields? ["day", "round", "arena", "events", "game_over"] =
      some [some (ofNat r.day.toNat), some (ofRoundKind r.round), some (ofOption .text r.arena),
        some (.list (r.events.map ofEventReport)), some (ofOption ofWinner r.winner)] :=
  rfl

theorem faithful_roundReport : Faithful ofRoundReport toRoundReport? where
  plain r := .object (by simp [member]) <| by
    simp [member, faithful_uInt32.plain, faithful_roundKind.plain, faithful_arena.plain,
      faithful_eventReport.list.plain, faithful_outcome.plain]
  read_write r := by
    rw [toRoundReport?, fields?_ofRoundReport]
    simp [faithful_uInt32.read_write, faithful_roundKind.read_write, faithful_arena.read_write,
      faithful_eventReport.list.read_write, faithful_outcome.read_write]

end Json

/-- A report is read back from its text, be it on one line or on several. -/
theorem RoundReport.read_written (r : RoundReport) :
    RoundReport.read r.print = some r ∧
      RoundReport.read (Json.ofRoundReport r).pretty = some r := by
  have hplain := Json.faithful_roundReport.plain r
  constructor
  · rw [read, print, hplain.read_compact, Option.bind_some, Json.faithful_roundReport.read_write]
  · rw [read, hplain.read_pretty, Option.bind_some, Json.faithful_roundReport.read_write]

end Tournament
