import Stencil.Tree.Embed
import Stencil.Proofs.Text.Quoted

/-!
# Keys of embedded templates

A key is a fixed start, the label of the host, a mark, and a digest of fixed length. So a key can be
taken apart again whatever its host is called: two keys are the same only if host labels and digests
are, and no host is called like one of its own keys.

## Key results

- `Md5.length_hexDigest`: a digest has 32 characters
- `Embed.key_eq_iff`: a key tells the label of its host and the digest
- `Embed.key_ne_host`: a key is not the name of its host
- `Stmt.mem_detachList`: what the embeds are that are taken out of statements
-/

namespace Stencil

namespace Md5

theorem length_bytesOf (count n : Nat) : (bytesOf count n).length = count := by
  induction count generalizing n with
  | zero => rfl
  | succ count ih => rw [bytesOf, List.length_cons, ih]

theorem length_digest (message : List UInt8) : (digest message).length = 16 := by
  simp [digest, length_bytesOf]

/-- A digest has 32 characters. -/
theorem length_hexDigest (s : String) : (hexDigest s).toList.length = 32 := by
  have htwo : ∀ bs : List UInt8, (bs.flatMap fun b => Text.hex 2 b.toNat).length = 2 * bs.length := by
    intro bs
    induction bs with
    | nil => rfl
    | cons b bs ih =>
      have hfits : (Nat.toDigits 16 b.toNat).length ≤ 2 :=
        (Nat.length_toDigits_le_iff (by decide) (by decide)).2 b.toNat_lt
      have hb : (Text.hex 2 b.toNat).length = 2 := Text.length_hex hfits
      rw [List.flatMap_cons, List.length_append, ih, hb, List.length_cons]
      omega
  rw [hexDigest, String.toList_ofList, htwo, length_digest]

end Md5

namespace Embed

theorem toList_key (host : Option String) (dump : String) :
    (key host dump).toList =
      keyStart.toList ++ ((hostLabel host).toList ++ '#' :: (Md5.hexDigest dump).toList) := by
  simp [key]

/-- Two keys are the same iff the labels of their hosts and the digests are: the digest is as long
as any other, so that it is clear where the label ends. -/
theorem key_eq_iff {host host' : Option String} {dump dump' : String} :
    key host dump = key host' dump' ↔
      hostLabel host = hostLabel host' ∧ Md5.hexDigest dump = Md5.hexDigest dump' := by
  constructor
  · intro h
    have hchars := congrArg String.toList h
    rw [toList_key, toList_key] at hchars
    have hrest := List.append_cancel_left hchars
    have hlen : ('#' :: (Md5.hexDigest dump).toList).length =
        ('#' :: (Md5.hexDigest dump').toList).length := by
      rw [List.length_cons, List.length_cons, Md5.length_hexDigest, Md5.length_hexDigest]
    obtain ⟨hlabel, hdigest⟩ := List.append_inj' hrest hlen
    exact ⟨String.toList_injective hlabel, String.toList_injective (List.tail_eq_of_cons_eq hdigest)⟩
  · rintro ⟨hlabel, hdigest⟩
    rw [key, key, hlabel, hdigest]

theorem length_le_hostLabel (name : String) :
    name.toList.length ≤ (hostLabel (some name)).toList.length := by
  rw [hostLabel]
  split
  · rename_i hempty
    rw [String.isEmpty_iff.1 hempty]
    exact Nat.zero_le _
  · exact Nat.le_refl _

/-- A key is longer than the name of its host. -/
theorem key_ne_host (name dump : String) : key (some name) dump ≠ name := by
  intro h
  have hlen := congrArg (·.toList.length) h
  have hlabel := length_le_hostLabel name
  simp only [toList_key, List.length_append, List.length_cons] at hlen
  omega

end Embed

/-! ## Embeds that are taken out -/

/-- The embed with the given parent and body, as it is taken out for a host. -/
def Embedded.ofTag (host : Option String) (line : Nat) (parent : Expr) (body : List Stmt) :
    Embedded :=
  let template : Template := ⟨line, .extend line parent :: (Stmt.detachList host body).1⟩
  ⟨Embed.key host template.dump, template⟩

namespace Stmt

mutual

/-- What is taken out of a statement are embeds. -/
theorem mem_detach (host : Option String) : (s : Stmt) → ∀ e ∈ (s.detach host).2,
    ∃ l parent body, e = Embedded.ofTag host l parent body
  | output _ _ | extend _ _ | inclusion _ _ _ _ | importModule _ _ _ _ | importNames _ _ _ _
  | exprStmt _ _ | assign _ _ _ | continueLoop _ | breakLoop _ | embedded _ _ => by
    simp only [detach]
    exact fun _ he => nomatch he
  | loop _ _ _ body orElse _ _ => by
    simp only [detach]
    exact List.forall_mem_append.2 ⟨mem_detachList host body, mem_detachList host orElse⟩
  | branch _ _ body elifs orElse => by
    simp only [detach]
    exact List.forall_mem_append.2 ⟨List.forall_mem_append.2 ⟨mem_detachList host body,
      mem_detachList host elifs⟩, mem_detachList host orElse⟩
  | macroDef _ _ _ _ body | callBlock _ _ _ _ _ _ body | filterBlock _ _ body
  | withBlock _ _ body | block _ _ body _ _ | assignBlock _ _ _ body | autoescape _ _ body => by
    simp only [detach]
    exact mem_detachList host body
  | embed l parent body => by
    simp only [detach]
    exact List.forall_mem_append.2 ⟨mem_detachList host body,
      List.forall_mem_singleton.2 ⟨l, parent, body, rfl⟩⟩

theorem mem_detachList (host : Option String) : (ss : List Stmt) → ∀ e ∈ (detachList host ss).2,
    ∃ l parent body, e = Embedded.ofTag host l parent body
  | [] => fun _ he => nomatch he
  | s :: ss => by
    simp only [detachList]
    exact List.forall_mem_append.2 ⟨mem_detach host s, mem_detachList host ss⟩

end

/-- The key of an embed is made from its host and its tree. -/
theorem key_detachList (host : Option String) (ss : List Stmt) (e : Embedded)
    (he : e ∈ (detachList host ss).2) : e.key = Embed.key host e.template.dump := by
  obtain ⟨l, parent, body, rfl⟩ := mem_detachList host ss e he
  rfl

end Stmt

end Stencil
