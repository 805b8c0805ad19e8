import SwiftAudit.Proofs.Swift.Operands
import SwiftAudit.Proofs.Translation.Source
import SwiftAudit.Swift.Declaration
import SwiftAudit.Swift.Expression
import SwiftAudit.Swift.Statement

-- What is read off a node does not depend on where the text stands.
namespace SwiftAudit.Swift

section Shift

variable (k : Nat) (n : Node)

@[simp] theorem nameNode_shift : nameNode (n.shift k) = (nameNode n).shift k := by
  unfold nameNode
  rw [Node.child?_shift]
  cases n.child? .name <;> rfl

theorem modifierHolders_shift :
    modifierHolders (n.shift k) = (modifierHolders n).map (Node.shift k) := by
  have hlists : ((n.shift k).children.filter (·.kind == "modifiers")) =
      (n.children.filter (·.kind == "modifiers")).map (Node.shift k) := by
    simp [List.filter_map, Function.comp_def]
  unfold modifierHolders
  rw [hlists]
  cases n.children.filter (·.kind == "modifiers") <;> rfl

@[simp] theorem isReference_shift : isReference (n.shift k) = isReference n := by
  simp [isReference]

@[simp] theorem lastNamedChild?_shift :
    lastNamedChild? (n.shift k) = (lastNamedChild? n).map (Node.shift k) := by
  simp [lastNamedChild?]

theorem memberNode?_shift : memberNode? (n.shift k) = (memberNode? n).map (Node.shift k) := by
  have hsuffix : ((n.shift k).child? .suffix <|>
      (n.shift k).children.find? (·.kind == "navigation_suffix")) =
        (n.child? .suffix <|> n.children.find? (·.kind == "navigation_suffix")).map
          (Node.shift k) := by
    rw [Node.child?_shift]
    cases n.child? .suffix with
    | none =>
        simp only [Option.map_none, Node.children_shift, List.find?_map, Function.comp_def,
          Node.kind_shift, Option.orElse_eq_orElse, Option.orElse_eq_or, Option.none_or]
    | some suffix => rfl
  unfold memberNode?
  rw [hsuffix]
  cases (n.child? .suffix <|> n.children.find? (·.kind == "navigation_suffix")) with
  | none => rfl
  | some suffix =>
      simp only [Option.map_some, Option.bind_eq_bind, Option.bind_some, Node.child?_shift,
        lastNamedChild?_shift]
      cases suffix.child? .suffix <;> rfl

theorem operandsAmong_shift {α β : Type} (label : α → Label) (label' : β → Label) (f : α → β)
    (hlabel : ∀ a, label' (f a) = (label a).shift k) (children : List α) :
    operandsAmong label' (children.map f) = (operandsAmong label children).map f := by
  rw [operandsAmong_map]
  simp only [operandsAmong, Function.comp_apply, hlabel, Label.has_shift, Label.named_shift,
    Label.isComment_shift, Label.kind_shift]

@[simp] theorem operands_shift : operands (n.shift k) = (operands n).map (Node.shift k) := by
  rw [operands, Node.children_shift]
  exact operandsAmong_shift k (·.label) (·.label) (Node.shift k) (Node.label_shift k) n.children

theorem operator?_shift (children : List Label) :
    operator? id (children.map (Label.shift k)) =
      (operator? id children).map (Label.shift k) := by
  unfold operator?
  simp only [List.find?_map, Function.comp_def, id_eq, Label.has_shift]
  cases children.find? (fun child => child.has .op) with
  | some label => rfl
  | none =>
      simp [List.eraseP_map, List.find?_map, Function.comp_def]

theorem blockAmong_shift (inSwitch opened : Bool) (children : List Node) :
    blockAmong inSwitch opened (children.map (Node.shift k)) =
      (blockAmong inSwitch opened children).map (Node.shift k) := by
  induction children generalizing opened with
  | nil => rfl
  | cons child rest ih =>
      simp only [List.map_cons, blockAmong, Node.kind_shift, ih]
      split
      · rfl
      · split
        · rfl
        · split <;> rfl

theorem block?_shift : block? (n.shift k) = (block? n).map (Node.shift k) := by
  rw [block?, Node.kind_shift, Node.children_shift, blockAmong_shift, block?]

@[simp] theorem statements_shift : statements (n.shift k) = (statements n).map (Node.shift k) := by
  unfold statements
  rw [block?_shift]
  cases block? n with
  | none => rfl
  | some block => simp [statementsIn, List.filter_map, Function.comp_def]

end Shift

section Moved

variable {above : List UInt8} {source moved : Source} (h : source.MovedBy above moved) (n : Node)

include h

theorem declarationName_moved :
    declarationName moved (n.shift above.length) = declarationName source n := by
  simp only [declarationName, Node.kind_shift, Node.child?_shift]
  cases n.child? .name with
  | none => rfl
  | some name => simp [h.textOf_eq]

theorem typeWord_moved : typeWord moved (n.shift above.length) = typeWord source n := by
  simp only [typeWord, Node.child?_shift, Node.children_shift, List.find?_map,
    Function.comp_def, Node.label_shift, Label.named_shift, Node.kind_shift]
  cases n.child? .declarationKind with
  | some word => exact h.textOf_eq word
  | none =>
      cases n.children.find? fun child => !child.label.named && typeWords.contains child.kind with
      | none => rfl
      | some word => exact Node.kind_shift above.length word

theorem isExtension_moved : isExtension moved (n.shift above.length) = isExtension source n := by
  rw [isExtension, typeWord_moved h, isExtension]

theorem modifiers_moved : modifiers moved (n.shift above.length) = modifiers source n := by
  simp [modifiers, modifierHolders_shift, List.flatMap_map, List.filter_map, Function.comp_def,
    h.chars_eq]

theorem hasModifier_moved (words : List String) :
    hasModifier moved (n.shift above.length) words = hasModifier source n words := by
  rw [hasModifier, modifiers_moved h, hasModifier]

theorem boundName?_moved :
    boundName? moved (n.shift above.length) = boundName? source n := by
  have hnamed : (n.shift above.length).namedChildren.filter (!·.isComment) =
      (n.namedChildren.filter (!·.isComment)).map (Node.shift above.length) := by
    simp [List.filter_map, Function.comp_def]
  unfold boundName?
  rw [hnamed]
  generalize n.namedChildren.filter (!·.isComment) = named
  match named with
  | [] => rfl
  | [identifier] => simp [h.textOf_eq]
  | _ :: _ :: _ => rfl

theorem binding?_moved : binding? moved (n.shift above.length) =
    (binding? source n).map (Prod.map id (Node.shift above.length)) := by
  simp only [binding?, Node.kind_shift, h.textOf_eq, boundName?_moved h]
  split
  · rfl
  · split
    · cases boundName? source n <;> rfl
    · rfl

theorem bindings_moved : bindings moved (n.shift above.length) =
    (bindings source n).map (Prod.map id (Node.shift above.length)) := by
  simp only [bindings, Node.namedChildren_shift, List.filterMap_map, List.map_filterMap,
    Function.comp_def, binding?_moved h]

theorem mutability_moved : mutability moved (n.shift above.length) = mutability source n := by
  simp only [mutability, Node.children_shift, List.find?_map, Function.comp_def,
    Node.kind_shift]
  cases n.children.find? (·.kind == "value_binding_pattern") with
  | some keyword => simp [h.chars_eq]
  | none =>
      cases n.children.find? fun child => child.kind == "let" || child.kind == "var" with
      | none => rfl
      | some keyword => simp

theorem memberName?_moved :
    memberName? moved (n.shift above.length) = memberName? source n := by
  rw [memberName?, memberNode?_shift, Option.map_map, memberName?]
  congr 1
  funext member
  exact h.textOf_eq member

theorem usedName?_moved : usedName? moved (n.shift above.length) = usedName? source n := by
  simp [usedName?, memberName?_moved h, h.textOf_eq]

theorem operatorText_moved (children : List Label) :
    operatorText moved (children.map (Label.shift above.length)) =
      operatorText source children := by
  unfold operatorText
  rw [operator?_shift]
  cases operator? id children with
  | none => rfl
  | some label => simp [h.chars_eq]

theorem binaryOperator_moved :
    binaryOperator moved (n.shift above.length) = binaryOperator source n := by
  have hlabels : (n.shift above.length).tree.children.map (·.label) =
      (n.tree.children.map (·.label)).map (Label.shift above.length) := by
    simp [Function.comp_def]
  rw [binaryOperator, hlabels, operatorText_moved h, binaryOperator]

theorem isReturn_moved : isReturn moved (n.shift above.length) = isReturn source n := by
  unfold isReturn
  rw [Node.kind_shift, Node.children_shift]
  cases n.children with
  | nil => rfl
  | cons first rest => simp [h.textOf_eq]

end Moved

end SwiftAudit.Swift
