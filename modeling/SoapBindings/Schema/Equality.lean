import SoapBindings.Schema.Declaration

/-!
# Equal declarations

Two documents may declare the same thing, for instance because both are copies of a third. That is
allowed if the declarations are equal in every part, documentation included, so equality of
declarations has to be decided. As they contain one another, one comparison per kind (`same`) runs
through both declarations in step; `same_iff` says that it decides equality.
-/

set_option autoImplicit false

namespace SoapBindings.Schema

mutual

def TypeUse.same : TypeUse → TypeUse → Bool
  | .named a, .named b => a = b
  | .anonymous a, .anonymous b => a.same b
  | _, _ => false

def TypeDecl.same : TypeDecl → TypeDecl → Bool
  | .simple a, .simple b => a.same b
  | .complex a, .complex b => a.same b
  | _, _ => false

def SimpleType.same : SimpleType → SimpleType → Bool
  | ⟨n, d, x⟩, ⟨n', d', x'⟩ => n = n' && d = d' && x.same x'

def Derivation.same : Derivation → Derivation → Bool
  | .restriction a f, .restriction b g => a.same b && f = g
  | .list a, .list b => a.same b
  | .union as, .union bs => sameUses as bs
  | _, _ => false

def sameUses : List TypeUse → List TypeUse → Bool
  | [], [] => true
  | a :: as, b :: bs => a.same b && sameUses as bs
  | _, _ => false

def sameUse : Option TypeUse → Option TypeUse → Bool
  | none, none => true
  | some a, some b => a.same b
  | _, _ => false

def ComplexType.same : ComplexType → ComplexType → Bool
  | ⟨n, d, s, m, c, as, o, i⟩, ⟨n', d', s', m', c', as', o', i'⟩ =>
    n = n' && d = d' && s = s' && m = m' && c.same c' && sameAttributes as as' && o = o' && i = i'

def Content.same : Content → Content → Bool
  | .empty, .empty => true
  | .group a, .group b => a.same b
  | .extension a g, .extension b h => a = b && sameGroup g h
  | .restriction a g, .restriction b h => a = b && sameGroup g h
  | .simpleExtension a, .simpleExtension b => a = b
  | .simpleRestriction a f, .simpleRestriction b g => a = b && f = g
  | _, _ => false

def sameGroup : Option ModelGroup → Option ModelGroup → Bool
  | none, none => true
  | some a, some b => a.same b
  | _, _ => false

def ModelGroup.same : ModelGroup → ModelGroup → Bool
  | ⟨c, o, is⟩, ⟨c', o', is'⟩ => c = c' && o = o' && sameItems is is'

def sameItems : List GroupItem → List GroupItem → Bool
  | [], [] => true
  | a :: as, b :: bs => a.same b && sameItems as bs
  | _, _ => false

def GroupItem.same : GroupItem → GroupItem → Bool
  | .element a o, .element b o' => a.same b && o = o'
  | .elementRef a o, .elementRef b o' => a = b && o = o'
  | .group a, .group b => a.same b
  | .groupRef a o, .groupRef b o' => a = b && o = o'
  | .any o, .any o' => o = o'
  | _, _ => false

def ElementDecl.same : ElementDecl → ElementDecl → Bool
  | ⟨n, s, t, l, a, g, d, f, c⟩, ⟨n', s', t', l', a', g', d', f', c'⟩ =>
    n = n' && s = s' && sameUse t t' && l = l' && a = a' && g = g' && d = d' && f = f' && c = c'

def AttributeItem.same : AttributeItem → AttributeItem → Bool
  | .own a, .own b => a.same b
  | .ref a u, .ref b v => a = b && u = v
  | .groupRef a, .groupRef b => a = b
  | _, _ => false

def sameAttributes : List AttributeItem → List AttributeItem → Bool
  | [], [] => true
  | a :: as, b :: bs => a.same b && sameAttributes as bs
  | _, _ => false

def AttributeDecl.same : AttributeDecl → AttributeDecl → Bool
  | ⟨n, s, t, u, d, f⟩, ⟨n', s', t', u', d', f'⟩ =>
    n = n' && s = s' && sameUse t t' && u = u' && d = d' && f = f'

end

mutual

theorem TypeUse.same_iff : ∀ a b : TypeUse, a.same b = true ↔ a = b
  | .named a, .named b => by simp [TypeUse.same]
  | .anonymous a, .anonymous b => by simp [TypeUse.same, TypeDecl.same_iff a b]
  | .named _, .anonymous _ | .anonymous _, .named _ => by simp [TypeUse.same]

theorem TypeDecl.same_iff : ∀ a b : TypeDecl, a.same b = true ↔ a = b
  | .simple a, .simple b => by simp [TypeDecl.same, SimpleType.same_iff a b]
  | .complex a, .complex b => by simp [TypeDecl.same, ComplexType.same_iff a b]
  | .simple _, .complex _ | .complex _, .simple _ => by simp [TypeDecl.same]

theorem SimpleType.same_iff : ∀ a b : SimpleType, a.same b = true ↔ a = b
  | ⟨n, d, x⟩, ⟨n', d', x'⟩ => by
    simp [SimpleType.same, Derivation.same_iff x x', and_assoc]

theorem Derivation.same_iff : ∀ a b : Derivation, a.same b = true ↔ a = b
  | .restriction a f, .restriction b g => by simp [Derivation.same, TypeUse.same_iff a b]
  | .list a, .list b => by simp [Derivation.same, TypeUse.same_iff a b]
  | .union as, .union bs => by simp [Derivation.same, sameUses_iff as bs]
  | .restriction .., .list _ | .restriction .., .union _ | .list _, .restriction ..
  | .list _, .union _ | .union _, .restriction .. | .union _, .list _ => by
    simp [Derivation.same]

theorem sameUses_iff : ∀ as bs : List TypeUse, sameUses as bs = true ↔ as = bs
  | [], [] | [], _ :: _ | _ :: _, [] => by simp [sameUses]
  | a :: as, b :: bs => by simp [sameUses, TypeUse.same_iff a b, sameUses_iff as bs]

theorem sameUse_iff : ∀ a b : Option TypeUse, sameUse a b = true ↔ a = b
  | none, none | none, some _ | some _, none => by simp [sameUse]
  | some a, some b => by simp [sameUse, TypeUse.same_iff a b]

theorem ComplexType.same_iff : ∀ a b : ComplexType, a.same b = true ↔ a = b
  | ⟨n, d, s, m, c, as, o, i⟩, ⟨n', d', s', m', c', as', o', i'⟩ => by
    simp [ComplexType.same, Content.same_iff c c', sameAttributes_iff as as', and_assoc]

theorem Content.same_iff : ∀ a b : Content, a.same b = true ↔ a = b
  | .empty, b => by cases b <;> simp [Content.same]
  | .group a, b => by
    cases b with
    | group b => simp [Content.same, ModelGroup.same_iff a b]
    | _ => simp [Content.same]
  | .extension a g, b => by
    cases b with
    | extension b h => simp [Content.same, sameGroup_iff g h]
    | _ => simp [Content.same]
  | .restriction a g, b => by
    cases b with
    | restriction b h => simp [Content.same, sameGroup_iff g h]
    | _ => simp [Content.same]
  | .simpleExtension _, b => by cases b <;> simp [Content.same]
  | .simpleRestriction _ _, b => by cases b <;> simp [Content.same]

theorem sameGroup_iff : ∀ a b : Option ModelGroup, sameGroup a b = true ↔ a = b
  | none, none | none, some _ | some _, none => by simp [sameGroup]
  | some a, some b => by simp [sameGroup, ModelGroup.same_iff a b]

theorem ModelGroup.same_iff : ∀ a b : ModelGroup, a.same b = true ↔ a = b
  | ⟨c, o, is⟩, ⟨c', o', is'⟩ => by simp [ModelGroup.same, sameItems_iff is is', and_assoc]

theorem sameItems_iff : ∀ as bs : List GroupItem, sameItems as bs = true ↔ as = bs
  | [], [] | [], _ :: _ | _ :: _, [] => by simp [sameItems]
  | a :: as, b :: bs => by simp [sameItems, GroupItem.same_iff a b, sameItems_iff as bs]

theorem GroupItem.same_iff : ∀ a b : GroupItem, a.same b = true ↔ a = b
  | .element a o, b => by
    cases b with
    | element b o' => simp [GroupItem.same, ElementDecl.same_iff a b]
    | _ => simp [GroupItem.same]
  | .group a, b => by
    cases b with
    | group b => simp [GroupItem.same, ModelGroup.same_iff a b]
    | _ => simp [GroupItem.same]
  | .elementRef _ _, b => by cases b <;> simp [GroupItem.same]
  | .groupRef _ _, b => by cases b <;> simp [GroupItem.same]
  | .any _, b => by cases b <;> simp [GroupItem.same]

theorem ElementDecl.same_iff : ∀ a b : ElementDecl, a.same b = true ↔ a = b
  | ⟨n, s, t, l, a, g, d, f, c⟩, ⟨n', s', t', l', a', g', d', f', c'⟩ => by
    simp [ElementDecl.same, sameUse_iff t t', and_assoc]

theorem AttributeItem.same_iff : ∀ a b : AttributeItem, a.same b = true ↔ a = b
  | .own a, b => by
    cases b with
    | own b => simp [AttributeItem.same, AttributeDecl.same_iff a b]
    | _ => simp [AttributeItem.same]
  | .ref _ _, b => by cases b <;> simp [AttributeItem.same]
  | .groupRef _, b => by cases b <;> simp [AttributeItem.same]

theorem sameAttributes_iff : ∀ as bs : List AttributeItem, sameAttributes as bs = true ↔ as = bs
  | [], [] | [], _ :: _ | _ :: _, [] => by simp [sameAttributes]
  | a :: as, b :: bs => by
    simp [sameAttributes, AttributeItem.same_iff a b, sameAttributes_iff as bs]

theorem AttributeDecl.same_iff : ∀ a b : AttributeDecl, a.same b = true ↔ a = b
  | ⟨n, s, t, u, d, f⟩, ⟨n', s', t', u', d', f'⟩ => by
    simp [AttributeDecl.same, sameUse_iff t t', and_assoc]

end

instance : DecidableEq TypeDecl := fun a b => decidable_of_iff _ (TypeDecl.same_iff a b)

instance : DecidableEq ElementDecl := fun a b => decidable_of_iff _ (ElementDecl.same_iff a b)

instance : DecidableEq AttributeDecl := fun a b => decidable_of_iff _ (AttributeDecl.same_iff a b)

instance : DecidableEq ModelGroup := fun a b => decidable_of_iff _ (ModelGroup.same_iff a b)

instance : DecidableEq AttributeItem := fun a b => decidable_of_iff _ (AttributeItem.same_iff a b)

deriving instance DecidableEq for GroupDecl, AttributeGroupDecl

end SoapBindings.Schema
