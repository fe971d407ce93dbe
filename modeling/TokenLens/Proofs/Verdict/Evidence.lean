import TokenLens.Proofs.Abi.Acceptance
import TokenLens.Proofs.Evm.Presentation
import TokenLens.Proofs.Number.Monotone
import TokenLens.Proofs.Verdict.Consistency

/-!
# More evidence never loses a match

Let all that is present under one test be present under another. Then no tier has fewer selectors
present, so standards keep their points and shares or gain some. The label that is chosen may become
another, but it does not go away (`Registry.exists_best_of_more`). An ABI with further entries and
code with more text on either side offer such a further test (`Registry.evidence_keeps_labels`).
-/

namespace TokenLens

/-- A percentage grows with the part. -/
theorem percentOf_mono {part larger whole : Nat} (grows : part ≤ larger) (isPart : larger ≤ whole) :
    Number.le (.double (percentOf part whole)) (.double (percentOf larger whole)) = true := by
  rcases Nat.eq_zero_or_pos whole with rfl | someWhole
  · rw [percentOf, percentOf, if_pos rfl, if_pos rfl]
    have isNumber : Binary64.zero ≠ .nan := nofun
    exact (Binary64.le_iff isNumber isNumber).2 le_rfl
  · rw [percentOf_eq_ofQuotient someWhole, percentOf_eq_ofQuotient someWhole]
    exact Binary64.ofQuotient_le_ofQuotient someWhole someWhole
      (Nat.mul_le_mul_right whole (Nat.mul_le_mul_left 100 grows)) (by decide : 7 ≤ 53)
      (hundred_mul_lt someWhole (grows.trans isPart)) (hundred_mul_lt someWhole isPart)

section Further

variable {present further : Text → Bool}
  (more : ∀ selector, present selector = true → further selector = true)
include more

/-- No set has fewer members present under the further test. -/
theorem SelectorSet.count_le_of_more (set : SelectorSet) : set.count present ≤ set.count further :=
  List.countP_mono_left fun selector _ => more selector

namespace Standard

variable {standard : Standard} {threshold : Number}

/-- What passes the gate passes it under the further test. -/
theorem PassesGate.of_more (passes : standard.PassesGate present) : standard.PassesGate further :=
  fun selector isLeast => more selector (passes selector isLeast)

/-- What qualifies does so under the further test, with no fewer points. -/
theorem qualifies_of_more (qualified : standard.qualifies present = true) :
    standard.qualifies further = true ∧
      (standard.pointScore present).points ≤ (standard.pointScore further).points :=
  ⟨qualifies_iff.2 ((qualifies_iff.1 qualified).of_more more), standard.max.count_le_of_more more⟩

/-- No share is lower under the further test. -/
theorem share_le_of_more (standard : Standard) :
    Number.le (.double (standard.share present)) (.double (standard.share further)) = true :=
  percentOf_mono (standard.full.count_le_of_more more) SelectorSet.count_le_size

/-- A share that reaches a threshold does so under the further test. -/
theorem Reaches.of_more (reaches : standard.Reaches present threshold) :
    standard.Reaches further threshold :=
  Number.le_trans reaches (standard.share_le_of_more more)

end Standard

namespace Registry

variable {registry : Registry} {strategy : Strategy} {threshold : Number} {label : Text}

/-- Where points choose a label they choose one under the further test. -/
theorem exists_bestByPoints_of_more (chosen : registry.bestByPoints present = some label) :
    ∃ other, registry.bestByPoints further = some other := by
  obtain ⟨winner, ⟨before, after, split, passes, -⟩, -⟩ :=
    isWinner_some_iff.1 (isWinner_iff.2 chosen)
  have isStandard : winner ∈ registry.standards := by simp [split]
  exact exists_bestByPoints isStandard (passes.of_more more)

/-- Where percentages choose a label they choose one under the further test. -/
theorem exists_bestByPercent_of_more
    (chosen : registry.bestByPercent present threshold = some label) :
    ∃ other, registry.bestByPercent further threshold = some other := by
  obtain ⟨winner, isFirst, reaches, -⟩ := bestByPercent_eq_some_iff.1 chosen
  refine Option.ne_none_iff_exists'.1 fun nothing => ?_
  exact bestByPercent_eq_none_iff.1 nothing winner isFirst.isStandard (reaches.of_more more)

/-- Where a strategy chooses a label it chooses one under the further test. -/
theorem exists_best_of_more (chosen : registry.best present strategy threshold = some label) :
    ∃ other, registry.best further strategy threshold = some other := by
  cases strategy with
  | minMax => exact exists_bestByPoints_of_more more chosen
  | percent => exact exists_bestByPercent_of_more more chosen

end Registry

end Further

section Classified

variable {registry : Registry} {strategy : Strategy} {threshold : Number} {label : Text}

/-- What is classified with further selectors has a label if it had one without them. -/
theorem exists_label_of_classifyAbi {abi extended : Json} {entries others : List Json}
    {label? : Option Text} (lists : Abi.Lists abi entries) (listsOthers : Abi.Lists extended others)
    (kept : ∀ entry ∈ entries, entry ∈ others)
    (classified : classifyAbi abi registry strategy threshold = .ok (some label))
    (classifiedToo : classifyAbi extended registry strategy threshold = .ok label?) :
    ∃ other, label? = some other := by
  obtain ⟨selectors, accepted, chosen⟩ := exists_of_classifyAbi_eq_ok classified
  obtain ⟨further, acceptedToo, rfl⟩ := exists_of_classifyAbi_eq_ok classifiedToo
  obtain ⟨-, ofEntries⟩ := Abi.of_selectors_eq_ok lists accepted
  obtain ⟨-, ofOthers⟩ := Abi.of_selectors_eq_ok listsOthers acceptedToo
  refine Registry.exists_best_of_more (fun selector isPresent => ?_) chosen
  rw [SelectorSet.contains_iff, ofEntries] at isPresent
  rw [SelectorSet.contains_iff, ofOthers]
  obtain ⟨entry, isEntry, selected⟩ := isPresent
  exact ⟨entry, kept entry isEntry, selected⟩

/-- An ABI that was classified is classified with further entries that are sound. -/
theorem exists_classifyAbi {abi extended : Json} {entries others : List Json}
    {label? : Option Text} (lists : Abi.Lists abi entries) (listsOthers : Abi.Lists extended others)
    (sound : ∀ entry ∈ others, entry ∉ entries → ∀ kind, Declaration.IsOfKind kind entry →
      Declaration.IsWellFormed ParamType.maxDepth entry ∧ Declaration.IsEncodable entry)
    (classified : classifyAbi abi registry strategy threshold = .ok label?) :
    ∃ other?, classifyAbi extended registry strategy threshold = .ok other? := by
  obtain ⟨selectors, accepted, -⟩ := exists_of_classifyAbi_eq_ok classified
  obtain ⟨each, -⟩ := Abi.of_selectors_eq_ok lists accepted
  obtain ⟨further, acceptedToo⟩ := Abi.exists_selectors listsOthers fun entry isOther => by
    by_cases isEntry : entry ∈ entries
    · exact each entry isEntry
    · exact Declaration.exists_ofEntry (sound entry isOther isEntry)
  exact ⟨_, classifyAbi_eq_best acceptedToo registry strategy threshold⟩

/-- The code that digits spell around the spelling of code holds the text of that code. -/
theorem Code.exists_ofText_around (code : Code) {before after : List Char}
    (isBefore : Hex.AreWhole before) (isAfter : Hex.AreWhole after) :
    ∃ whole, Code.ofText (Text.ofChars before ++ code.text ++ Text.ofChars after) = .ok whole ∧
      code.text <:+: whole.text := by
  have areWhole := (isBefore.append (Hex.areWhole_ofBytes code.bytes)).append isAfter
  have spelled := ofText_ofChars areWhole
  have bytes : Hex.toBytes (before ++ Hex.ofBytes code.bytes ++ after) =
      Hex.toBytes before ++ code.bytes ++ Hex.toBytes after := by
    rw [Hex.toBytes_append (isBefore.append (Hex.areWhole_ofBytes code.bytes)).even,
      Hex.toBytes_append isBefore.even, Hex.toBytes_ofBytes]
  have isText : Text.ofChars (before ++ Hex.ofBytes code.bytes ++ after) =
      Text.ofChars before ++ code.text ++ Text.ofChars after := by
    simp [Text.ofChars, text]
  rw [isText, bytes] at spelled
  refine ⟨_, spelled, (⟨Hex.toBytes before⟩ : Code).text, (⟨Hex.toBytes after⟩ : Code).text, ?_⟩
  rw [← text_append, ← text_append]
  rfl

/-- Code that is taken for a standard is taken for one with digits put around it. -/
theorem exists_classifyCode_around {code : Code} {before after : List Char}
    (isBefore : Hex.AreWhole before) (isAfter : Hex.AreWhole after)
    (classified : classifyCode (.str code.text) registry strategy threshold =
      .ok (.standard label)) :
    ∃ other, classifyCode (.str (Text.ofChars before ++ code.text ++ Text.ofChars after)) registry
      strategy threshold = .ok (.standard other) := by
  obtain ⟨same, spelled, isLabel⟩ := exists_of_classifyCode_eq_ok classified
  obtain rfl : code = same := Except.ok.inj ((Code.ofText_text code).symm.trans spelled)
  obtain ⟨whole, spelledToo, within⟩ := code.exists_ofText_around isBefore isAfter
  have isSpelled : Code.ofJson (.str (Text.ofChars before ++ code.text ++ Text.ofChars after)) =
      .ok whole := spelledToo
  obtain ⟨verdict, classifiedToo, isOther, -⟩ :=
    classifyCode_tells isSpelled registry strategy threshold
  have more (selector : Text) (isPresent : Text.mentions code.text selector = true) :
      Text.mentions whole.text selector = true :=
    Text.occursIn_iff_isInfix.2 ((Text.occursIn_iff_isInfix.1 isPresent).trans within)
  obtain ⟨other, chosen⟩ := Registry.exists_best_of_more more isLabel.symm
  have isStandard := Verdict.label?_eq_some_iff.1 (isOther.trans chosen)
  exact ⟨other, isStandard ▸ classifiedToo⟩

end Classified

/-- If all that is present under one test is present under another, then each standard that
qualifies does so under the other with no fewer points, no percentage is lower, and where a strategy
chooses a label it chooses one under the other. So an ABI with a label has one with further entries,
if those are accepted (as they are if all that declare something are well-formed, not too deep, and
in bytes), and code that is taken for a standard is taken for one with an even number of hexadecimal
digits put before and behind its spelling. -/
theorem Registry.evidence_keeps_labels (registry : Registry) (strategy : Strategy)
    (threshold : Number) :
    (∀ present further : Text → Bool,
      (∀ selector, present selector = true → further selector = true) →
        (∀ standard ∈ registry.standards, standard.qualifies present = true →
          standard.qualifies further = true ∧
            (standard.pointScore present).points ≤ (standard.pointScore further).points) ∧
        (∀ standard ∈ registry.standards,
          Number.le (.double (standard.percentScore present).percent)
            (.double (standard.percentScore further).percent) = true) ∧
        ∀ label, registry.best present strategy threshold = some label →
          ∃ other, registry.best further strategy threshold = some other) ∧
    (∀ abi extended entries others label, Abi.Lists abi entries → Abi.Lists extended others →
      (∀ entry ∈ entries, entry ∈ others) →
      classifyAbi abi registry strategy threshold = .ok (some label) →
        (∀ label?, classifyAbi extended registry strategy threshold = .ok label? →
          ∃ other, label? = some other) ∧
        ((∀ entry ∈ others, entry ∉ entries → ∀ kind, Declaration.IsOfKind kind entry →
            Declaration.IsWellFormed ParamType.maxDepth entry ∧ Declaration.IsEncodable entry) →
          ∃ other, classifyAbi extended registry strategy threshold = .ok (some other))) ∧
    ∀ (code : Code) before after label, Hex.AreWhole before → Hex.AreWhole after →
      classifyCode (.str code.text) registry strategy threshold = .ok (.standard label) →
        ∃ other, classifyCode (.str (Text.ofChars before ++ code.text ++ Text.ofChars after))
          registry strategy threshold = .ok (.standard other) := by
  refine ⟨fun present further more => ⟨?_, ?_, ?_⟩, ?_, ?_⟩
  · exact fun standard _ qualified => Standard.qualifies_of_more more qualified
  · exact fun standard _ => standard.share_le_of_more more
  · exact fun label chosen => exists_best_of_more more chosen
  · intro abi extended entries others label lists listsOthers kept classified
    have labelled (label? : Option Text)
        (classifiedToo : classifyAbi extended registry strategy threshold = .ok label?) :=
      exists_label_of_classifyAbi lists listsOthers kept classified classifiedToo
    refine ⟨labelled, fun sound => ?_⟩
    obtain ⟨other?, classifiedToo⟩ := exists_classifyAbi lists listsOthers sound classified
    obtain ⟨other, rfl⟩ := labelled _ classifiedToo
    exact ⟨other, classifiedToo⟩
  · intro code before after label isBefore isAfter classified
    exact exists_classifyCode_around isBefore isAfter classified

/-- Two standards with one least tier, of which the second rewards one more function. -/
def oneMoreFunction : Registry :=
  let least := SelectorSet.ofList ["214b62b3"]
  let both := SelectorSet.ofList ["214b62b3", "58c1aae1"]
  ⟨[⟨"first", least, least, least, []⟩, ⟨"second", least, both, both, []⟩]⟩

/-- An ABI with a label has one with a further function in front, though another, and code keeps
one between further digits. -/
theorem Registry.evidence_keeps_labels_oneMoreFunction :
    let abi := Abi.artifactOf 1
    let extended : Json := .arr [Declaration.nestedEntry 2, Declaration.nestedEntry 1]
    let code : Code := ⟨[0x63, 0x21, 0x4b, 0x62, 0xb3]⟩
    classifyAbi abi oneMoreFunction .minMax .hundred = .ok (some ("FIRST" : Text)) ∧
    (∃ other, classifyAbi extended oneMoreFunction .minMax .hundred = .ok (some other)) ∧
    (classifyAbi extended oneMoreFunction .minMax .hundred).toOption =
      some (some ("SECOND" : Text)) ∧
    classifyCode (.str code.text) oneMoreFunction .minMax .hundred = .ok (.standard "FIRST") ∧
    (∃ other, classifyCode (.str (Text.ofChars ['f', '4'] ++ code.text ++ Text.ofChars ['F', 'F']))
      oneMoreFunction .minMax .hundred = .ok (.standard other)) ∧
    ∃ other, oneMoreFunction.best (fun _ => true) .minMax .hundred = some other := by
  intro abi extended code
  obtain ⟨further, ofAbi, ofCode⟩ := oneMoreFunction.evidence_keeps_labels .minMax .hundred
  have isFirst : classifyAbi abi oneMoreFunction .minMax .hundred = .ok (some ("FIRST" : Text)) :=
    eq_ok_of_toOption (by decide +kernel)
  have isCode : classifyCode (.str code.text) oneMoreFunction .minMax .hundred =
      .ok (.standard "FIRST") := eq_ok_of_toOption (by decide +kernel)
  have lists : Abi.Lists abi [Declaration.nestedEntry 1] := Abi.entries_eq_ok_iff.1 rfl
  have listsOthers : Abi.Lists extended [Declaration.nestedEntry 2, Declaration.nestedEntry 1] :=
    Abi.entries_eq_ok_iff.1 rfl
  have sound : ∀ entry ∈ [Declaration.nestedEntry 2, Declaration.nestedEntry 1],
      entry ∉ [Declaration.nestedEntry 1] → ∀ kind, Declaration.IsOfKind kind entry →
        Declaration.IsWellFormed ParamType.maxDepth entry ∧ Declaration.IsEncodable entry := by
    intro entry isOther isNew kind _
    have isEntry : entry = Declaration.nestedEntry 2 :=
      (List.mem_cons.1 isOther).resolve_right isNew
    rw [isEntry]
    exact ⟨Declaration.isWellFormed_nestedEntry_iff.2 (by decide),
      Declaration.isEncodable_nestedEntry 2⟩
  obtain ⟨-, keepsLabel⟩ := ofAbi _ _ _ _ _ lists listsOthers (by simp) isFirst
  obtain ⟨-, -, chooses⟩ := further (fun selector => selector = "214b62b3") (fun _ => true)
    (fun _ _ => rfl)
  have chosen : oneMoreFunction.best (fun selector => selector = "214b62b3") .minMax .hundred =
      some "FIRST" := by decide +kernel
  exact ⟨isFirst, keepsLabel sound, by decide +kernel, isCode,
    ofCode code ['f', '4'] ['F', 'F'] _ ⟨List.all_eq_true.1 rfl, rfl⟩
      ⟨List.all_eq_true.1 rfl, rfl⟩ isCode, chooses _ chosen⟩

end TokenLens
