import Stencil.Proofs.Embed.History
import Stencil.Proofs.Tree.Regular

/-!
# What the key of an embed stands for

The key of an embed tells the label of its host and, through the digest, the written form of its
tree. The written form tells the tree, up to the lines it stands on. So two embeds have the same key
iff their hosts have the same label and they are the same but for lines, wherever they were read.

## Key results

- `Embed.key_ne_of_label_ne`: hosts with different labels share no key
- `Language.key_eq_iff_alike`: which embeds have the same key
-/

namespace Stencil

/-- Hosts with different labels share no key, whatever they are called. -/
theorem Embed.key_ne_of_label_ne {host host' : Option String}
    (h : hostLabel host ≠ hostLabel host') (dump dump' : String) : key host dump ≠ key host' dump' :=
  fun hkey => h (key_eq_iff.1 hkey).1

namespace Language

/-- Embeds of any two sources have the same key iff the labels of their hosts are the same and so
are the digests of their written forms. If digests do not collide on these two, and numbers are told
apart by their texts, this is so iff the labels are the same and the embeds differ in lines only.
Hosts with different labels never share a key. -/
theorem key_eq_iff_alike {lang lang' : Language} {host host' : Option String}
    {code code' : String} {p p' : Parsed} (hp : lang.parse host code = .ok p)
    (hp' : lang'.parse host' code' = .ok p') {e e' : Embedded} (he : e ∈ p.embeds)
    (he' : e' ∈ p'.embeds) :
    (e.key = e'.key ↔ Embed.hostLabel host = Embed.hostLabel host' ∧
      Md5.hexDigest e.template.dump = Md5.hexDigest e'.template.dump) ∧
    ((Md5.hexDigest e.template.dump = Md5.hexDigest e'.template.dump →
        e.template.dump = e'.template.dump) →
      Binary64.Told e.template.floats e'.template.floats →
      (e.key = e'.key ↔ Embed.hostLabel host = Embed.hostLabel host' ∧
        e.template.Alike e'.template)) ∧
    (Embed.hostLabel host ≠ Embed.hostLabel host' → e.key ≠ e'.key) := by
  obtain ⟨t, -, rfl⟩ := detach_of_parse hp
  obtain ⟨t', -, rfl⟩ := detach_of_parse hp'
  -- a key is made of the label and the digest, which can be read off it again
  have hkey : e.key = e'.key ↔ Embed.hostLabel host = Embed.hostLabel host' ∧
      Md5.hexDigest e.template.dump = Md5.hexDigest e'.template.dump := by
    rw [Stmt.key_detachList host t.body e he, Stmt.key_detachList host' t'.body e' he',
      Embed.key_eq_iff]
  refine ⟨hkey, fun hdigest htold => ?_, fun hlabel => ?_⟩
  -- where digests do not collide, the written form stands for the tree but for its lines
  · rw [hkey, ← Embedded.dump_eq_iff he he' htold]
    exact and_congr_right fun _ => ⟨hdigest, congrArg Md5.hexDigest⟩
  · rw [Stmt.key_detachList host t.body e he, Stmt.key_detachList host' t'.body e' he']
    exact Embed.key_ne_of_label_ne hlabel _ _

/-- A language with the tag for embeds. -/
def withEmbeds : Language := { extensions := { embedTag := true } }

/-- The only embed of a source. -/
def onlyEmbedOf (host : Option String) (code : String) : Option Embedded :=
  ((withEmbeds.parse host code).toOption.map (·.embeds)).bind List.head?

theorem exists_parse_of_onlyEmbedOf {host : Option String} {code : String} {e : Embedded}
    (h : onlyEmbedOf host code = some e) :
    ∃ p, withEmbeds.parse host code = .ok p ∧ e ∈ p.embeds := by
  rw [onlyEmbedOf] at h
  cases hp : withEmbeds.parse host code with
  | error f => rw [hp] at h; exact nomatch h
  | ok p => rw [hp] at h; exact ⟨p, rfl, List.mem_of_mem_head? h⟩

/-- What is compared of two embeds: the line, the written form, and how many numbers there are. -/
def features (e : Embedded) : Nat × String × Nat :=
  (e.template.line, e.template.dump, e.template.floats.length)

/-- An embed of a host called `<string>` has the key of the same embed on another line of a source
without a name. -/
theorem key_eq_iff_alike_moved :
    ∃ e e', onlyEmbedOf none "\x7b% embed 'a' %\x7d\x7b% endembed %\x7d" = some e ∧
      onlyEmbedOf (some "<string>") "\n\x7b% embed 'a' %\x7d\x7b% endembed %\x7d" = some e' ∧
      e'.template.line = e.template.line + 1 ∧ e.key = e'.key ∧ e.template.Alike e'.template := by
  have hfeatures : ∃ d, (onlyEmbedOf none "\x7b% embed 'a' %\x7d\x7b% endembed %\x7d").map features =
        some (1, d, 0) ∧
      (onlyEmbedOf (some "<string>") "\n\x7b% embed 'a' %\x7d\x7b% endembed %\x7d").map features =
        some (2, d, 0) :=
    ⟨"nodes.Template([nodes.Extends(nodes.Const('a'))])", by decide +kernel, by decide +kernel⟩
  obtain ⟨d, h, h'⟩ := hfeatures
  obtain ⟨e, hone, he⟩ := Option.map_eq_some_iff.1 h
  obtain ⟨e', hone', he'⟩ := Option.map_eq_some_iff.1 h'
  simp only [features, Prod.mk.injEq, List.length_eq_zero_iff] at he he'
  obtain ⟨hline, hdump, hfloats⟩ := he
  obtain ⟨hline', hdump', -⟩ := he'
  have hsame : e.template.dump = e'.template.dump := hdump.trans hdump'.symm
  have htold : Binary64.Told e.template.floats e'.template.floats := by
    rw [hfloats]
    exact fun _ hx => nomatch hx
  obtain ⟨p, hp, hmem⟩ := exists_parse_of_onlyEmbedOf hone
  obtain ⟨p', hp', hmem'⟩ := exists_parse_of_onlyEmbedOf hone'
  obtain ⟨hkey, halike, -⟩ := key_eq_iff_alike hp hp' hmem hmem'
  have heq : e.key = e'.key := hkey.2 ⟨rfl, congrArg Md5.hexDigest hsame⟩
  exact ⟨e, e', hone, hone', by rw [hline, hline'], heq, ((halike (fun _ => hsame) htold).1 heq).2⟩

end Language

end Stencil
