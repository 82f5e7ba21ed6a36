import FeatureGen.Proofs.Schema.Consistency
import FeatureGen.Proofs.Schema.Lookup
import Mathlib.Data.List.Basic

/-!
# What a model depends on

A model is compiled from its own body and from the index of the whole schema.  The index is asked
about the types that the declarations of the body are written with, and about nothing else
(`classify_congr`).  So two schemas in which a model has the same body give the same fields if their
indexes agree on those types, whatever else the schemas hold.

In a document the index says of a type what the blocks of that name declare
(`agreeOn_of_contents`).  So the order of the blocks does not matter, nor do blocks whose names are
no types of the model.  What is left is the version of unique identifiers, which the whole text
decides, and which matters only if the model has one (`compile_isolated`).
-/

namespace FeatureGen.Schema

open FeatureGen.Text

/-! ## Agreement of indexes -/

/-- Two indexes give the same answers about a type. -/
structure Index.AgreeOn (i j : Index) (type : String) : Prop where
  isModel : i.isModel type = j.isModel type
  isEnum : i.isEnum type = j.isEnum type
  enumValues : i.enumValues type = j.enumValues type
  /-- The version of unique identifiers counts for their type alone. -/
  uuidVersion : type = "UUID" → i.uuidVersion = j.uuidVersion

variable {i j : Index} {type : String}

theorem BaseExpression.ofType_congr (h : i.AgreeOn j type) :
    BaseExpression.ofType type i = BaseExpression.ofType type j := by
  simp only [BaseExpression.ofType, h.isEnum, h.enumValues]
  by_cases huuid : type = "UUID"
  · simp [huuid, h.uuidVersion huuid]
  · simp [huuid]

theorem target?_congr (h : i.AgreeOn j type) (a : RelationAttribute) (suffix : String) :
    target? type a i suffix = target? type a j suffix := by
  rw [target?, target?, h.isModel]

theorem relate_congr (h : i.AgreeOn j type) (field : String) (isList : Bool)
    (attr : Option RelationAttribute) (settings : Settings) :
    relate field type isList attr i settings = relate field type isList attr j settings := by
  simp only [relate, h.isModel, target?_congr h]

/-- The field of a declaration depends on what the index says of its type. -/
theorem toField_congr {shape : FieldShape} (h : i.AgreeOn j (String.ofList shape.type))
    (relation : Option Relation) : shape.toField relation i = shape.toField relation j := by
  simp only [FieldShape.toField, Expression.ofType, BaseExpression.ofType_congr h, h.isEnum,
    h.enumValues]

theorem relation?_congr {shape : FieldShape} (h : i.AgreeOn j (String.ofList shape.type))
    (settings : Settings) : shape.relation? i settings = shape.relation? j settings := by
  simp only [FieldShape.relation?, relate_congr h]

/-! ## The types of a body -/

/-- The type that a line is written with, if it is a declaration. -/
def lineType? (line : List Char) : Option String :=
  (FieldShape.read? (trim line)).map fun shape => String.ofList shape.type

/-- The types that the declarations of a body are written with. -/
def bodyTypes (body : List Char) : List String := (fieldLines body).filterMap lineType?

/-- What becomes of a line depends on what the index says of its type. -/
theorem classify_congr {line : List Char} (h : ∀ type ∈ lineType? line, i.AgreeOn j type)
    (settings : Settings) : classify line i settings = classify line j settings := by
  rw [classify, classify]
  cases hread : FieldShape.read? (trim line) with
  | none => rfl
  | some shape =>
    have hshape : i.AgreeOn j (String.ofList shape.type) := by
      apply h
      rw [lineType?, hread]
      rfl
    simp only [relation?_congr hshape, toField_congr hshape]

theorem acceptedFields_congr {lines : List (List Char)}
    (h : ∀ type ∈ lines.filterMap lineType?, i.AgreeOn j type) (settings : Settings) :
    acceptedFields i settings lines = acceptedFields j settings lines := by
  apply List.filterMap_congr
  intro line hline
  rw [classify_congr fun type htype => h type (List.mem_filterMap.2 ⟨line, hline, htype⟩)]

/-- The schemas give the same answers about the types of a model that both of them declare with the
same body, or that neither of them declares. -/
structure SameModel (text model text' model' : String) : Prop where
  modelBody?_eq : modelBody? text.toList model.toList = modelBody? text'.toList model'.toList
  agreeOn : ∀ body ∈ modelBody? text.toList model.toList, ∃ i j,
    Index.ofText text.toList = .ok i ∧ Index.ofText text'.toList = .ok j ∧
      ∀ type ∈ bodyTypes body, i.AgreeOn j type

theorem compile_congr {text model text' model' : String} (h : SameModel text model text' model')
    (settings : Settings) : compile text model settings = compile text' model' settings := by
  rw [compile_of_toList rfl, compile_of_toList rfl, ← h.modelBody?_eq]
  cases hbody : modelBody? text.toList model.toList with
  | none => rfl
  | some body =>
    obtain ⟨i, j, hi, hj, hagree⟩ := h.agreeOn body hbody
    simp only [Option.elim_some, hi, hj]
    exact congrArg (fun fields => Except.ok (firstsBy Field.name [] fields))
      (acceptedFields_congr hagree settings)

theorem compileReserved_congr {text model text' model' : String}
    (h : SameModel text model text' model') (settings : Settings) :
    compileReserved text model settings = compileReserved text' model' settings := by
  rw [compileReserved, compileReserved, compile_congr h]

/-! ## Documents -/

/-- What a block declares, without its layout. -/
def Block.content (b : Block) : BlockKind × List Char × List Char := (b.kind, b.name, b.body)

/-- What the blocks of a document declare. -/
def Document.contents (d : Document) : List (BlockKind × List Char × List Char) :=
  d.blocks.map Block.content

theorem Document.mem_contents {d : Document} {kind : BlockKind} {name body : List Char} :
    (kind, name, body) ∈ d.contents ↔ ∃ b ∈ d.blocksOf kind, b.name = name ∧ b.body = body := by
  simp only [Document.contents, List.mem_map, Document.blocksOf, List.mem_filter, Block.content,
    Prod.mk.injEq, decide_eq_true_eq]
  constructor
  · rintro ⟨b, hb, hkind, hname, hbody⟩
    exact ⟨b, ⟨hb, hkind⟩, hname, hbody⟩
  · rintro ⟨b, ⟨hb, hkind⟩, hname, hbody⟩
    exact ⟨b, hb, hkind, hname, hbody⟩

section DocumentIndex

variable {d : Document} (h : d.Distinct) (hindex : Index.ofText d.text = .ok i)

include h hindex

/-- The enumerations of the index of a document are those of its blocks. -/
theorem Document.Distinct.exists_enums : ∃ enums,
    (d.blocksOf .enumeration).mapM Block.enumeration = .ok enums ∧
      i = ⟨(d.names .model).map String.ofList, enums, uuidVersion? d.text⟩ := by
  rw [h.ofText_text] at hindex
  obtain ⟨enums, henums, rfl⟩ := exists_of_map_eq_ok hindex
  exact ⟨enums, henums, rfl⟩

/-- A type is a model of a document if one of its blocks declares it. -/
theorem Document.Distinct.isModel_iff :
    i.isModel type = true ↔ ∃ body, (BlockKind.model, type.toList, body) ∈ d.contents := by
  obtain ⟨enums, -, rfl⟩ := h.exists_enums hindex
  simp only [Index.isModel, List.contains_iff_mem, Document.names, List.map_map, List.mem_map,
    Function.comp_apply, Document.mem_contents]
  constructor
  · rintro ⟨b, hb, rfl⟩
    exact ⟨b.body, b, hb, by simp, rfl⟩
  · rintro ⟨_, b, hb, hname, -⟩
    exact ⟨b, hb, by rw [hname, String.ofList_toList]⟩

/-- A type is looked up among the enumerations of a document with the values in the body of its
block. -/
theorem Document.Distinct.lookup_enums_iff {values : List String} :
    i.enums.lookup type = some values ↔
      ∃ body, (BlockKind.enumeration, type.toList, body) ∈ d.contents ∧
        (Schema.enumValues body).map (List.map String.ofList) = .ok values := by
  have hmem : i.enums.lookup type = some values ↔ (type, values) ∈ i.enums := by
    constructor
    · intro hlookup
      obtain ⟨l₁, l₂, he, -⟩ := List.lookup_eq_some_iff.1 hlookup
      rw [he]
      simp
    · exact lookup_eq_some_of_mem (nodup_enums hindex)
  obtain ⟨enums, henums, rfl⟩ := h.exists_enums hindex
  rw [hmem]
  constructor
  · intro hvalues
    obtain ⟨b, hb, hread⟩ := exists_of_mem_mapM henums hvalues
    obtain ⟨vs, hvs, hpair⟩ := exists_of_map_eq_ok hread
    cases hpair
    exact ⟨b.body, Document.mem_contents.2 ⟨b, hb, by simp, rfl⟩, by rw [hvs]; rfl⟩
  · rintro ⟨body, hcontents, hread⟩
    obtain ⟨b, hb, hname, rfl⟩ := Document.mem_contents.1 hcontents
    obtain ⟨e, he, henumeration⟩ := exists_of_mem_of_mapM henums hb
    obtain ⟨vs, hvs, rfl⟩ := exists_of_map_eq_ok hread
    rw [Block.enumeration, hvs, hname, String.ofList_toList] at henumeration
    obtain rfl := Except.ok.inj henumeration
    exact he

end DocumentIndex

/-- The indexes of two documents agree on a type if the same blocks declare it in both. -/
theorem agreeOn_of_contents {d d' : Document} (h : d.Distinct) (h' : d'.Distinct)
    (hcontents : ∀ kind body,
      (kind, type.toList, body) ∈ d.contents ↔ (kind, type.toList, body) ∈ d'.contents)
    (huuid : type = "UUID" → uuidVersion? d.text = uuidVersion? d'.text)
    (hi : Index.ofText d.text = .ok i) (hj : Index.ofText d'.text = .ok j) : i.AgreeOn j type := by
  have hlookup : i.enums.lookup type = j.enums.lookup type := by
    apply Option.ext
    intro values
    simp only [h.lookup_enums_iff hi, h'.lookup_enums_iff hj, hcontents]
  constructor
  · apply Bool.eq_iff_iff.2
    simp only [h.isModel_iff hi, h'.isModel_iff hj, hcontents]
  · rw [Index.isEnum, Index.isEnum, hlookup]
  · rw [Index.enumValues, Index.enumValues, hlookup]
  · obtain ⟨_, -, rfl⟩ := h.exists_enums hi
    obtain ⟨_, -, rfl⟩ := h'.exists_enums hj
    exact huuid

/-- A document comes from another when blocks are permuted, and blocks that do not declare any of
the given names are added and removed.  The layout of the blocks may change. -/
def Rearranged (names : List String) (d d' : Document) : Prop :=
  ∃ added removed, (d.contents ++ added).Perm (d'.contents ++ removed) ∧
    ∀ a ∈ added ++ removed, String.ofList a.2.1 ∉ names

/-- The blocks of the given names are the same. -/
theorem Rearranged.mem_contents_iff {names : List String} {d d' : Document}
    (h : Rearranged names d d') (htype : type ∈ names) (kind : BlockKind) (body : List Char) :
    (kind, type.toList, body) ∈ d.contents ↔ (kind, type.toList, body) ∈ d'.contents := by
  obtain ⟨added, removed, hperm, hnames⟩ := h
  have hother : (kind, type.toList, body) ∉ added ++ removed := fun hm =>
    hnames _ hm (by simpa using htype)
  rw [List.mem_append, not_or] at hother
  have hmem := hperm.mem_iff (a := (kind, type.toList, body))
  simpa [hother.1, hother.2] using hmem

/-- The fields of a model and its reserved fields are the same in two schemas that give it the same
body and agree on the types in it.  In particular they are the same in two documents with the same
block of the model, one of which comes from the other by permuting blocks, and by adding and
removing blocks whose names are no types of the model, as long as the version of unique identifiers
stays the same and both documents have an index. -/
theorem compile_isolated (settings : Settings) :
    (∀ text model text' model', SameModel text model text' model' →
      compile text model settings = compile text' model' settings ∧
        compileReserved text model settings = compileReserved text' model' settings) ∧
      ∀ d d' : Document, d.Distinct → d'.Distinct →
        ∀ b ∈ d.blocksOf .model, b.content ∈ d'.contents → Rearranged (bodyTypes b.body) d d' →
          ("UUID" ∈ bodyTypes b.body → uuidVersion? d.text = uuidVersion? d'.text) →
          ∀ i j, Index.ofText d.text = .ok i → Index.ofText d'.text = .ok j →
          ∀ n n', SameUpToCase n b.name → SameUpToCase n' b.name →
            compile (String.ofList d.text) (String.ofList n) settings =
                compile (String.ofList d'.text) (String.ofList n') settings ∧
              compileReserved (String.ofList d.text) (String.ofList n) settings =
                compileReserved (String.ofList d'.text) (String.ofList n') settings := by
  have hsame : ∀ text model text' model', SameModel text model text' model' →
      compile text model settings = compile text' model' settings ∧
        compileReserved text model settings = compileReserved text' model' settings :=
    fun _ _ _ _ h => ⟨compile_congr h settings, compileReserved_congr h settings⟩
  refine ⟨hsame, ?_⟩
  intro d d' hd hd' b hb hcontent hrearranged huuid i j hi hj n n' hn hn'
  apply hsame
  have hkind : b.kind = .model := by simpa using (List.mem_filter.1 hb).2
  rw [Block.content, hkind] at hcontent
  obtain ⟨b', hb', hname, hbody⟩ := Document.mem_contents.1 hcontent
  have hfound : modelBody? d.text n = some b.body := hd.modelBody?_text hb hn
  have hfound' : modelBody? d'.text n' = some b.body := by
    rw [← hbody]
    exact hd'.modelBody?_text hb' (hname ▸ hn')
  constructor
  · simp only [String.toList_ofList]
    rw [hfound, hfound']
  · simp only [String.toList_ofList, hfound, Option.mem_some_iff, forall_eq']
    refine ⟨i, j, hi, hj, ?_⟩
    intro type htype
    refine agreeOn_of_contents hd hd' (hrearranged.mem_contents_iff htype) ?_ hi hj
    rintro rfl
    exact huuid htype

/-- The body of a model with an enumeration, a relation and a unique identifier. -/
def memberBody : List Char := "\n key UUID @default(uuid(7))\n role Role?\n team Team\n".toList

/-- A document with that model. -/
def memberDocument : Document where
  blocks :=
    [{ kind := .model, name := "Member".toList, body := memberBody },
     { kind := .enumeration, name := "Role".toList, body := " OWNER GUEST ".toList },
     { kind := .model, name := "Team".toList, body := " x Int ".toList },
     { kind := .model, name := "role".toList, body := " y UUID ".toList }]

/-- The same document with its blocks in another order, one block less and another one more. -/
def rearrangedDocument : Document where
  blocks :=
    [{ kind := .model, name := "Team".toList, body := " x Int ".toList },
     { kind := .enumeration, name := "Level".toList, body := " Role Team ".toList },
     { kind := .enumeration, name := "Role".toList, body := " OWNER GUEST ".toList },
     { kind := .model, name := "Member".toList, body := memberBody }]

/-- The model is the same in both documents. -/
theorem compile_isolated_member :
    Rearranged (bodyTypes memberBody) memberDocument rearrangedDocument ∧
      (compile (String.ofList memberDocument.text) "Member" {}).map
          (List.map fun f => (f.name, f.type, f.enumValues, f.isRelation)) =
        .ok [("key", "UUID", [], false), ("role", "Role", ["OWNER", "GUEST"], false),
          ("team", "Team", [], true)] ∧
      compile (String.ofList memberDocument.text) "Member" {} =
        compile (String.ofList rearrangedDocument.text) "MEMBER" {} := by
  have hd : memberDocument.Distinct := ⟨by decide, by decide⟩
  have hd' : rearrangedDocument.Distinct := ⟨by decide, by decide⟩
  have hmem : ∃ b ∈ memberDocument.blocksOf .model, b.name = "Member".toList ∧
      b.body = memberBody ∧ b.content ∈ rearrangedDocument.contents := by
    decide
  have hrearranged : Rearranged (bodyTypes memberBody) memberDocument rearrangedDocument :=
    ⟨[(.enumeration, "Level".toList, " Role Team ".toList)],
      [(.model, "role".toList, " y UUID ".toList)], by decide +kernel, by decide +kernel⟩
  have hindex : Index.ofText memberDocument.text = .ok ⟨["Member", "Team", "role"],
      [("Role", ["OWNER", "GUEST"])], uuidVersion? memberDocument.text⟩ := hd.ofText_text.trans rfl
  have hindex' : Index.ofText rearrangedDocument.text = .ok ⟨["Team", "Member"],
      [("Level", ["Role", "Team"]), ("Role", ["OWNER", "GUEST"])],
      uuidVersion? rearrangedDocument.text⟩ := hd'.ofText_text.trans rfl
  obtain ⟨b, hb, hname, hbody, hcontent⟩ := hmem
  have hsame := (compile_isolated {}).2 memberDocument rearrangedDocument hd hd' b hb hcontent
    (hbody ▸ hrearranged) (fun _ => by decide) _ _ hindex hindex' "Member".toList "MEMBER".toList
    (by rw [hname]; decide) (by rw [hname]; decide)
  exact ⟨hrearranged, by decide +kernel, hsame.1⟩

/-- The document `longDocument` without its enumeration. -/
def shortDocument : Document where
  blocks := [postBlock]

/-- A text without an `@` asks for no version of unique identifiers. -/
theorem uuidVersion?_of_not_mem {text : List Char} (h : '@' ∉ text) : uuidVersion? text = none := by
  have hnone : search? (fun _ => uuidDefaultAt?) none text = none := by
    rw [search?_eq_none_iff]
    rintro p t rfl
    cases hstart : after? "@default(".toList t with
    | none =>
      rw [uuidDefaultAt?, hstart]
      rfl
    | some rest =>
      rw [eq_append_of_after? hstart] at h
      exact absurd (List.mem_append_right p (List.mem_append_left rest (by decide))) h
  rw [uuidVersion?, hnone]
  rfl

/-- The model in `shortDocument` has a field, and none when an enumeration is added that it does not
name. -/
theorem compile_shortDocument :
    shortDocument.Distinct ∧ longDocument.Distinct ∧
      Rearranged (bodyTypes " title String ".toList) shortDocument longDocument ∧
      uuidVersion? shortDocument.text = uuidVersion? longDocument.text ∧
      (compile (String.ofList shortDocument.text) "Post" {}).map (List.map Field.name) =
        .ok ["title"] ∧
      compile (String.ofList longDocument.text) "Post" {} = .error ⟨4301⟩ := by
  have hlong : '@' ∉ longDocument.text := fun h => absurd (text_longDocument_subset h) (by decide)
  refine ⟨⟨by decide, by decide⟩, distinct_longDocument,
    ⟨[(.enumeration, "Size".toList, longReference)], [], .refl _, ?_⟩, ?_, ?_, ?_⟩
  · intro a ha
    rw [List.append_nil, List.mem_singleton] at ha
    rw [ha]
    decide +kernel
  · rw [uuidVersion?_of_not_mem hlong, uuidVersion?_of_not_mem (by decide)]
  · decide +kernel
  · exact compile_eq_error String.toList_ofList modelBody?_longDocument ofText_longDocument {}

end FeatureGen.Schema
