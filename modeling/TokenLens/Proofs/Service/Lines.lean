import TokenLens.Proofs.Json.Objects
import TokenLens.Proofs.Keyed
import TokenLens.Proofs.Text.Blank
import TokenLens.Service.Journal

/-!
# The lines of a request log

An entry is written on one line, which can be told from all others and is read back as the entry,
`LogEntry.read_characters`. A log that holds the lines of entries and nothing else is read as these
entries, in order, `Journal.readEntries_lines`.
-/

namespace TokenLens

open TokenLens.Text

namespace LogEntry

/-- An entry that can be read back: its status is a number that is not too long, and its standard
is a text or null in which nothing is joined. -/
structure IsPlain (entry : LogEntry) : Prop where
  status : entry.status < 10 ^ Numeral.maxDigits
  standard : ∀ standard ∈ entry.standard, standard.IsScalar ∧ standard.joined = standard

/-- An entry as it is read back. Halves of pairs that stand side by side are joined. -/
def asRead (entry : LogEntry) : LogEntry :=
  { entry with
    address := Text.joinHalves entry.address
    method := Text.joinHalves entry.method }

variable {entry : LogEntry}

/-- The milliseconds of a stamp are a scalar. -/
theorem isScalar_duration (stamp : Stamp) : (duration stamp).IsScalar := by
  obtain ⟨time, milliseconds, isFinite⟩ := stamp
  cases milliseconds with
  | none => exact .null
  | some count =>
      have short {bits digits : Nat} (few : bits ≤ digits) (below : count < Nat.pow 2 bits) :
          count < 10 ^ digits :=
        calc count < 2 ^ bits := below
          _ ≤ 2 ^ digits := Nat.pow_le_pow_right (by decide) few
          _ ≤ 10 ^ digits := Nat.pow_le_pow_left (by decide) digits
      have below := isFinite count rfl
      -- The power itself is never computed.
      generalize isBits : 1024 = bits at below
      exact .count count (short (isBits ▸ by decide) below)

/-- The members of an entry are scalars. -/
theorem isScalar_members (isPlain : entry.IsPlain) :
    ∀ member ∈ entry.members, member.2.IsScalar := by
  have common : ∀ member ∈ entry.commonMembers, member.2.IsScalar := by
    simp only [commonMembers, List.forall_mem_cons]
    exact ⟨.text _, .text _, .text _, .count _ isPlain.status, isScalar_duration _, .text _,
      by simp⟩
  unfold members
  split
  next standard isStandard =>
    rw [List.concat_eq_append]
    intro member isMember
    rcases List.mem_append.1 isMember with isCommon | isLast
    · exact common member isCommon
    · rw [List.mem_singleton.1 isLast]
      exact (isPlain.standard standard isStandard).1
  next => exact common

/-- The keys of an entry are apart. -/
theorem nodup_keys (entry : LogEntry) : (entry.members.map Prod.fst).Nodup := by
  unfold members
  split
  next => exact (by decide : (["ts", "path", "address", "status", "duration_ms", "method",
    "standard"] : List Text).Nodup)
  next => exact (by decide : (["ts", "path", "address", "status", "duration_ms", "method"] :
    List Text).Nodup)

/-- The standard stands behind all other members. -/
theorem get?_members {key : Text} (isOther : Text.ofString "standard" ≠ key) (entry : LogEntry) :
    Keyed.get? key entry.members = Keyed.get? key entry.commonMembers := by
  unfold members
  split
  · rw [List.concat_eq_append, Keyed.get?_append, Keyed.get?, if_neg isOther, Keyed.get?,
      Option.or_none]
  · rfl

/-- Entries that are one document state one address. -/
theorem address_eq_of_toJson_eq {other : LogEntry} (same : entry.toJson = other.toJson) :
    entry.address = other.address := by
  have isMember (entry : LogEntry) :
      Keyed.get? "address" entry.members = some (.str entry.address) := by
    rw [get?_members (by decide), commonMembers, Keyed.get?, if_neg (by decide), Keyed.get?,
      if_neg (by decide), Keyed.get?, if_pos rfl]
  have sameMembers : entry.members = other.members := Json.obj.inj same
  have sameAddress := (isMember entry).symm.trans (sameMembers ▸ isMember other)
  exact Json.str.inj (Option.some.inj sameAddress)

/-- The members of an entry are read back as those of the entry that is read back. -/
theorem map_joinedMember (isPlain : entry.IsPlain) :
    entry.members.map Json.joinedMember = entry.asRead.members := by
  have keys (key : String) : Text.joinHalves (Text.ofString key) = Text.ofString key :=
    Text.joinHalves_ofChars key.toList
  have sameDuration (stamp : Stamp) : (duration stamp).joined = duration stamp := by
    unfold duration
    cases stamp.milliseconds <;> rfl
  have common : entry.commonMembers.map Json.joinedMember = entry.asRead.commonMembers := by
    simp [commonMembers, Json.joinedMember, keys, sameDuration, asRead]
  unfold members
  cases isStandard : entry.standard with
  | none => simp only [asRead, isStandard, common]
  | some standard =>
      have same := (isPlain.standard standard isStandard).2
      simp only [asRead, isStandard, List.concat_eq_append, List.map_append, common]
      simp [Json.joinedMember, keys, same]

/-- The characters of the line of an entry, up to its end. -/
def characters (entry : LogEntry) : List Char :=
  entry.toJson.writeChars .compact

/-- The line of an entry is read back as the entry, with halves of pairs joined. -/
theorem read_characters (isPlain : entry.IsPlain) :
    Json.read (ofChars entry.characters) = .ok entry.asRead.toJson := by
  have someMember : entry.members ≠ [] := by
    unfold members
    split
    · simp
    · simp [commonMembers]
  have isRead := Json.read_object someMember (isScalar_members isPlain)
  rw [map_joinedMember isPlain, Keyed.ofList_of_nodup (nodup_keys _)] at isRead
  exact isRead

/-- The line of an entry is visible characters between braces. -/
theorem isVisible_characters (isPlain : entry.IsPlain) :
    ∃ inside, entry.characters = '\x7b' :: (inside ++ ['\x7d']) ∧
      ∀ character ∈ inside, Json.IsVisible character :=
  Json.exists_writeChars_object (isScalar_members isPlain)

/-- No line ends within the line of an entry. -/
theorem oneLine_characters (isPlain : entry.IsPlain) :
    ∀ character ∈ entry.characters, character ≠ '\n' ∧ character ≠ '\r' := by
  have notEnd {character : Char} (isVisible : Json.IsVisible character) :
      character ≠ '\n' ∧ character ≠ '\r' := by
    constructor
    all_goals
      rintro rfl
      exact absurd isVisible (by decide)
  obtain ⟨inside, isLine, visible⟩ := isVisible_characters isPlain
  rw [isLine]
  intro character isPart
  rcases List.mem_cons.1 isPart with rfl | isPart
  · decide
  · rcases List.mem_append.1 isPart with isInside | isLast
    · exact notEnd (visible character isInside)
    · rw [List.mem_singleton.1 isLast]
      decide

/-- The line of an entry is its characters and a line feed. -/
theorem toList_line (entry : LogEntry) : entry.line.toList = entry.characters ++ ['\n'] := by
  rw [line, String.toList_append, Json.write, String.toList_ofList]
  rfl

end LogEntry

namespace Journal

/-- A line without ends of lines is the first of a text. -/
theorem splitLines_append {line : List Char}
    (oneLine : ∀ character ∈ line, character ≠ '\n' ∧ character ≠ '\r') (rest : List Char) :
    splitLines (line ++ '\n' :: rest) = line :: splitLines rest := by
  induction line with
  | nil => simp [splitLines]
  | cons character others inductionHypothesis =>
      obtain ⟨⟨notFeed, notReturn⟩, later⟩ := List.forall_mem_cons.1 oneLine
      rw [List.cons_append, splitLines.eq_3 _ _ (by simp [notReturn])]
      simp [notFeed, notReturn, inductionHypothesis later]

variable {entries : List LogEntry}

/-- The line of an entry is neither stripped nor blank. -/
theorem strip_characters {entry : LogEntry} (isPlain : entry.IsPlain) :
    Text.strip (ofChars entry.characters) = ofChars entry.characters ∧
      ofChars entry.characters ≠ [] := by
  obtain ⟨inside, isLine, -⟩ := LogEntry.isVisible_characters isPlain
  have noBlank : isBlank (.char '\x7b') = false ∧ isBlank (.char '\x7d') = false := by decide
  rw [isLine]
  refine ⟨?_, by simp [ofChars]⟩
  have whole : trimBoth isBlank ([] ++ ofChars ('\x7b' :: (inside ++ ['\x7d'])) ++ []) =
      ofChars ('\x7b' :: (inside ++ ['\x7d'])) := by
    refine trimBoth_eq (by simp) (by simp) ?_ ?_
    · simpa [ofChars] using noBlank.1
    · simpa [ofChars, List.getLast?_cons, List.getLast?_append] using noBlank.2
  simpa [strip] using whole

/-- The lines of a log of entries are those of the entries. -/
theorem lines_join (arePlain : ∀ entry ∈ entries, entry.IsPlain) :
    lines ⟨some (String.join (entries.map LogEntry.line))⟩ =
      entries.map fun entry => String.ofList entry.characters := by
  have split : splitLines (String.join (entries.map LogEntry.line)).toList =
      entries.map LogEntry.characters ++ [[]] := by
    rw [String.toList_join]
    induction entries with
    | nil => rfl
    | cons entry rest inductionHypothesis =>
        obtain ⟨isPlain, areLater⟩ := List.forall_mem_cons.1 arePlain
        rw [List.map_cons, List.flatMap_cons, LogEntry.toList_line, List.append_assoc,
          List.singleton_append, splitLines_append (LogEntry.oneLine_characters isPlain),
          inductionHypothesis areLater]
        rfl
  have kept : ∀ line ∈ entries.map (fun entry => String.ofList entry.characters),
      (!(strip (ofString line)).isEmpty) = true := by
    intro line isLine
    obtain ⟨entry, isEntry, rfl⟩ := List.mem_map.1 isLine
    obtain ⟨same, someCharacter⟩ := strip_characters (arePlain entry isEntry)
    rw [ofString, String.toList_ofList, same]
    simpa using someCharacter
  have lastDropped : ([[]].map String.ofList).filter
      (fun line => !(strip (ofString line)).isEmpty) = [] := by decide
  rw [lines, Option.getD_some, split, List.map_append, List.map_map, List.filter_append,
    lastDropped, List.append_nil]
  exact List.filter_eq_self.2 kept

/-- A log of entries is read as these entries, with halves of pairs joined. -/
theorem readEntries_lines (arePlain : ∀ entry ∈ entries, entry.IsPlain) :
    readEntries (entries.map fun entry => String.ofList entry.characters) =
      some (entries.map fun entry => entry.asRead.toJson) := by
  induction entries with
  | nil => rfl
  | cons entry rest inductionHypothesis =>
      obtain ⟨isPlain, areLater⟩ := List.forall_mem_cons.1 arePlain
      have isEntry : readLine (String.ofList entry.characters) = .entry entry.asRead.toJson := by
        rw [readLine, ofString, String.toList_ofList, (strip_characters isPlain).1,
          LogEntry.read_characters isPlain]
        rfl
      rw [List.map_cons, readEntries, isEntry]
      simp only [inductionHypothesis areLater]
      rfl

end Journal

end TokenLens
