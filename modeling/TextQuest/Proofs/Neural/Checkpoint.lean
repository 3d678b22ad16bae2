import TextQuest.Proofs.Decimal.Shortest
import TextQuest.Proofs.FileTree
import TextQuest.Proofs.Neural.Safety
import TextQuest.Proofs.Ron.Reading

namespace TextQuest
open Ron Decimal

/-! ## The text of a checkpoint -/

theorem Ron.spellsSingle_shortest {x : Float32} (number : x.isNaN = false) :
    SpellsSingle x (shortestSingle x).toList := by
  cases parts : Binary.ofSingle x with
  | nan =>
    rw [isNaN_of_nan parts] at number
    cases number
  | infinite negative =>
    have bits : x.toBits = if negative then 0xff800000 else 0x7f800000 := by
      rw [← UInt32.toNat_inj, toBits_infinite parts]
      cases negative <;> rfl
    have shown : shortestSingle x = if negative then "-inf" else "inf" := by
      simp only [shortestSingle, parts, withShortest]
    rw [shown, ← Float32.ofBits_toBits x, bits]
    cases negative
    · exact .infinite
    · exact .negative
  | finite negative significand exponent =>
    obtain ⟨numeral, spells, rounds⟩ := exists_spells_shortest parts
    exact .numeral spells rounds

namespace Neural
namespace Params

def weightItem (w : Float32) : Item := ⟨.single, .single w, (shortestSingle w).toList⟩

def line (w : Float32) : String := "        " ++ shortestSingle w ++ ",\n"

theorem listed_lines (weights : List Float32) :
    Listed ((weights.map weightItem).map Item.text)
      ('\n' :: ((String.join (weights.map line)).toList ++ "    ".toList)) := by
  -- The line break behind a comma belongs to the gap before the next item, as the first one does.
  have indent : Blanks "\n        ".toList := blanks_of (by decide)
  induction weights with
  | nil => exact .nil (blanks_of (by decide))
  | cons w weights ih =>
    have listed := @Listed.cons (weightItem w).text _ _ _ _ indent .nil ih
    simpa [line, weightItem] using listed

theorem spells_listText {depth : Nat} {weights : List Float32} (numbers : ∀ w ∈ weights, w.isNaN = false) :
    Spells (depth + 2) (.list .single) (.list (weights.map .single)) (listText weights).toList := by
  have shaped : ∀ item ∈ weights.map weightItem, item.shape = .single := by simp [weightItem]
  have spells : ∀ item ∈ weights.map weightItem, Spells depth item.shape item.value item.text := by
    simp only [List.forall_mem_map]
    exact fun w inside => .single (spellsSingle_shortest (numbers w inside))
  have values : (weights.map weightItem).map Item.value = weights.map .single := by simp [weightItem]
  rw [← values]
  cases weights with
  | nil => exact .list shaped spells (.nil .nil)
  | cons w weights =>
    have shown : listText (w :: weights) = "[\n" ++ String.join ((w :: weights).map line) ++ "    ]" := rfl
    have text : (listText (w :: weights)).toList =
        '[' :: ('\n' :: ((String.join ((w :: weights).map line)).toList ++ "    ".toList) ++ [']']) := by
      rw [shown]
      simp
    rw [text]
    exact .list shaped spells (listed_lines (w :: weights))

theorem document_text {params : Params Float32}
    (numbers : ∀ w ∈ params.policy.toList ++ params.value.toList, w.isNaN = false) :
    Document shape (.record [("policy", .list (params.policy.toList.map .single)),
      ("value", .list (params.value.toList.map .single))]) params.text.toList := by
  obtain ⟨policyNumbers, valueNumbers⟩ := List.forall_mem_append.mp numbers
  let policy : Member := Item.named ⟨.list .single, .list (params.policy.toList.map .single),
    (listText params.policy.toList).toList⟩ "policy"
  let value : Member := Item.named ⟨.list .single, .list (params.value.toList.map .single),
    (listText params.value.toList).toList⟩ "value"
  have policyText : Spells 126 policy.shape policy.value policy.text := spells_listText policyNumbers
  have valueText : Spells 126 value.shape value.value value.text := spells_listText valueNumbers
  have policyWord : SpellsWord "policy" "policy".toList := spellsWord_of rfl (by decide)
  have valueWord : SpellsWord "value" "value".toList := spellsWord_of rfl (by decide)
  have names : ([policy, value].map (·.name)).Nodup := show ["policy", "value"].Nodup by decide
  have indent : Blanks "\n    ".toList := blanks_of (by decide)
  have listed : Listed ([policy, value].map Member.shown) _ :=
    .cons indent .nil (.cons indent .nil (.nil (@blanks_of "\n".toList (by decide))))
  have spells : Spells 128 shape (.record ([policy, value].map Member.pair)) _ :=
    .record .untitled names (List.forall_mem_cons.mpr ⟨rfl, List.forall_mem_singleton.mpr rfl⟩)
      (List.forall_mem_cons.mpr ⟨lead_named _ policyWord,
        List.forall_mem_singleton.mpr (lead_named _ valueWord)⟩)
      (List.forall_mem_cons.mpr ⟨policyText, List.forall_mem_singleton.mpr valueText⟩) listed
  have framed := Document.mk .nil .nil spells (.blanks .nil)
  -- By `rfl`, since the equation that unfolding `text` asks for is slow to make.
  have written : params.text = "(\n    policy: " ++ listText params.policy.toList ++ ",\n    value: " ++
      listText params.value.toList ++ ",\n)" := rfl
  simpa [written, policy, value, Item.named, Member.shown, Member.pair] using framed

theorem parse?_text {params : Params Float32}
    (numbers : ∀ w ∈ params.policy.toList ++ params.value.toList, w.isNaN = false) :
    parse? params.text = some ⟨.ofList params.policy.toList, .ofList params.value.toList⟩ := by
  have single : ∀ w, Value.single? (.single w) = some w := fun _ => rfl
  simp [parse?, parse?_document (document_text numbers), ofRon?, Value.fields?, Fields.required, List.lookup,
    list?_map .single single]

end Params

/-! ## Saving and loading -/

structure Learner.LoadsWholly (learner : Learner Float32) (tree : FileTree) (path : String) : Prop where
  takes : ∀ loaded, learner.load tree path = .ok loaded ↔
    ∃ text params, tree.readText path = .ok text ∧ Params.parse? text = some params ∧
      params.Sized learner.config.featureDim ∧ loaded = { learner with params }
  unreadable : ∀ fault, learner.load tree path = .error (.file fault) ↔ tree.readText path = .error fault
  malformed : learner.load tree path = .error .malformedRon ↔
    ∃ text, tree.readText path = .ok text ∧ Params.parse? text = none
  mismatched : ∀ expected policy value,
    learner.load tree path = .error (.checkpointMismatch expected policy value) ↔
      ∃ text params, tree.readText path = .ok text ∧ Params.parse? text = some params ∧
        ¬params.Sized learner.config.featureDim ∧ learner.config.featureDim = expected ∧
        params.policy.size = policy ∧ params.value.size = value
  noOther : ∀ error, learner.load tree path = .error error →
    (∃ fault, error = .file fault) ∨ error = .malformedRon ∨
      ∃ expected policy value, error = .checkpointMismatch expected policy value
  keeps : ∀ error, learner.load tree path = .error error → learner.operate (.load tree path) = learner

namespace Learner

theorem restore_sized {learner : Learner Float32} {text : String} {params : Params Float32}
    (parsed : Params.parse? text = some params) (sized : params.Sized learner.config.featureDim) :
    learner.restore text = .ok { learner with params } := by
  simp [restore, parsed, sized.policy, sized.value]

theorem restore_other {learner : Learner Float32} {text : String} {params : Params Float32}
    (parsed : Params.parse? text = some params) (other : ¬params.Sized learner.config.featureDim) :
    learner.restore text =
      .error (.checkpointMismatch learner.config.featureDim params.policy.size params.value.size) := by
  have apart : ¬(params.policy.size = learner.config.featureDim ∧
      params.value.size = learner.config.featureDim) := fun same => other ⟨same.1, same.2⟩
  simp only [restore, parsed, if_neg apart]

theorem load_of_readText {learner : Learner Float32} {tree : FileTree} {path text : String}
    (found : tree.readText path = .ok text) : learner.load tree path = learner.restore text := by
  rw [load, found]

theorem operate_load {learner loaded : Learner Float32} {tree : FileTree} {path : String}
    (loads : learner.load tree path = .ok loaded) : learner.operate (.load tree path) = loaded := by
  rw [operate, loads]
  rfl

theorem loadsWholly (learner : Learner Float32) (tree : FileTree) (path : String) :
    learner.LoadsWholly tree path := by
  have keeps : ∀ error, learner.load tree path = .error error →
      learner.operate (.load tree path) = learner := by
    intro error failed
    rw [operate, failed]
    rfl
  cases found : tree.readText path with
  | error fault =>
    have loads : learner.load tree path = .error (.file fault) := by rw [load, found]
    constructor <;> simp [loads, keeps, found]
  | ok text =>
    have restores := @load_of_readText learner _ _ _ found
    cases parsed : Params.parse? text with
    | none =>
      have loads : learner.load tree path = .error .malformedRon := by rw [restores, restore, parsed]
      constructor <;> simp [loads, keeps, found, parsed]
    | some params =>
      by_cases sized : params.Sized learner.config.featureDim
      · have loads := restores.trans (restore_sized parsed sized)
        constructor <;> simp [loads, found, parsed, sized, eq_comm]
      · have loads := restores.trans (restore_other parsed sized)
        constructor <;> simp [loads, keeps, found, parsed, sized]

theorem save_ok {learner : Learner Float32} {tree after : FileTree} {path : String}
    (saved : learner.save tree path = .ok after) : after.readText path = .ok learner.params.text := by
  unfold save at saved
  split at saved
  · cases saved
  · rename_i written
    cases saved
    exact FileTree.readText_write written

theorem load_saved {learner other : Learner Float32} {tree after : FileTree} {path : String}
    (sized : learner.params.Sized other.config.featureDim)
    (numbers : ∀ w ∈ learner.params.policy.toList ++ learner.params.value.toList, w.isNaN = false)
    (saved : learner.save tree path = .ok after) :
    ∃ params, other.load after path = .ok { other with params } ∧
      params.policy.toList = learner.params.policy.toList ∧
      params.value.toList = learner.params.value.toList := by
  let params : Params Float32 := ⟨.ofList learner.params.policy.toList, .ofList learner.params.value.toList⟩
  have restored : params.Sized other.config.featureDim :=
    ⟨(Weights.length_toList _).trans sized.policy, (Weights.length_toList _).trans sized.value⟩
  refine ⟨params, ?_, Weights.toList_ofList _, Weights.toList_ofList _⟩
  rw [load_of_readText (save_ok saved)]
  exact restore_sized (Params.parse?_text numbers) restored

end Learner

/-- A checkpoint of a learner, whatever was done with that, gives its weights to all that have as many.
Loading a file either takes over all weights or changes nothing. -/
theorem checkpoints_restore_or_change_nothing :
    (∀ (config : Config Float32) (operations : List Operation) (other : Learner Float32)
        (tree after : FileTree) (path : String),
      let learner := operations.foldl Learner.operate (.new config)
      0 < config.featureDim → other.config.featureDim = config.featureDim →
      (∀ w ∈ learner.params.policy.toList ++ learner.params.value.toList, w.isNaN = false) →
      learner.save tree path = .ok after →
        ∃ params, other.load after path = .ok { other with params } ∧
          params.policy.toList = learner.params.policy.toList ∧
          params.value.toList = learner.params.value.toList) ∧
    ∀ (learner : Learner Float32) (tree : FileTree) (path : String), learner.LoadsWholly tree path := by
  refine ⟨?_, Learner.loadsWholly⟩
  intro config operations other tree after path learner positive same numbers saved
  have safe := (Learner.Safe.new config).operated positive operations
  exact Learner.load_saved (same ▸ safe.sized) numbers saved

theorem infinite_weights_restored :
    let weights : Params Float32 :=
      ⟨.ofList [.ofBits 0x80000000, .ofBits 0x7f800000], .ofList [.ofBits 0xff800000, .ofBits 1]⟩
    let config : Config Float32 := { Config.standard with featureDim := 2 }
    let tree : FileTree := ⟨[(["old.ron"], .file weights.text.toUTF8)]⟩
    let other : Learner Float32 := { Learner.new config with training := true, decisions := 3 }
    ∃ after params,
      ([Operation.load tree "old.ron"].foldl Learner.operate (.new config)).save tree "new.ron" = .ok after ∧
      other.load after "new.ron" = .ok { other with params } ∧
      params.policy.toList = weights.policy.toList ∧ params.value.toList = weights.value.toList := by
  intro weights config tree other
  let old : Learner Float32 := { Learner.new config with
    params := ⟨.ofList weights.policy.toList, .ofList weights.value.toList⟩ }
  have numbers : ∀ w ∈ weights.policy.toList ++ weights.value.toList, w.isNaN = false := by
    simp only [weights, Weights.toList_ofList]
    decide
  have found : tree.readText "old.ron" = .ok weights.text := FileTree.readText_of_read rfl
  have loaded : (Learner.new config).load tree "old.ron" = .ok old := by
    rw [Learner.load_of_readText found]
    exact Learner.restore_sized (Params.parse?_text numbers) ⟨rfl, rfl⟩
  have learned : [Operation.load tree "old.ron"].foldl Learner.operate (.new config) = old := by
    rw [List.foldl_cons, List.foldl_nil, Learner.operate_load loaded]
  have saved : old.save tree "new.ron" = .ok (tree.put ["new.ron"] (.file old.params.text.toUTF8)) := rfl
  have restores := checkpoints_restore_or_change_nothing.1 config [.load tree "old.ron"] other tree
    (tree.put ["new.ron"] (.file old.params.text.toUTF8)) "new.ron" (by decide) rfl
  simp only [learned, old, Weights.toList_ofList] at restores
  obtain ⟨params, loads, same⟩ := restores numbers saved
  rw [learned]
  exact ⟨_, params, saved, loads, same⟩

end Neural
end TextQuest
