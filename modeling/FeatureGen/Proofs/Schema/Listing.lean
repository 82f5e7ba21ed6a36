import FeatureGen.Proofs.Schema.Ledger
import FeatureGen.Proofs.Schema.Lookup

/-!
# Listed models and their blocks

Models are listed by the exact spelling of their names, and looked up without regard to case.  So a
document may list two models whose names agree up to case, and then both are read from the block of
the first one.

`Document.source` is the block that a listed model is read from.  It is the model's own block,
unless the name of an earlier one agrees with its name (`listed_models`).
-/

namespace FeatureGen.Schema

open FeatureGen.Text

variable {d : Document} {a b : Block} {as as' : List Block}

/-- The fields that a body gives. -/
def bodyFields (index : Index) (settings : Settings) (body : List Char) : List Field :=
  firstsBy Field.name [] (acceptedFields index settings (fieldLines body))

/-- The fields of a declared model are those that its body gives. -/
theorem compile_of_modelBody? {text model : String} {body : List Char}
    (h : modelBody? text.toList model.toList = some body) (settings : Settings) :
    compile text model settings =
      (Index.ofText text.toList).map fun index => bodyFields index settings body := by
  simp only [compile_eq_map, indexFor_of_eq_some h, declaredFields_of_eq_some h, bodyFields]

/-- The block that a listed model is read from: the first one whose name agrees with its own. -/
def Document.source (d : Document) (b : Block) : Block :=
  ((d.blocksOf .model).find? fun a => SameUpToCase b.name a.name).getD b

/-- A model is read from the first block whose name agrees with its own. -/
theorem Document.source_eq (h : d.blocksOf .model = as ++ a :: as')
    (hfirst : ∀ c ∈ as, ¬ SameUpToCase b.name c.name) (hname : SameUpToCase b.name a.name) :
    d.source b = a := by
  have hnone : (as.find? fun c => SameUpToCase b.name c.name) = none := by
    simpa using hfirst
  rw [Document.source, h, List.find?_append, hnone, List.find?_cons]
  simp [hname]

theorem Document.modelBody?_source (hb : b ∈ d.blocksOf .model) :
    modelBody? d.text b.name = some (d.source b).body := by
  have hfind : (d.blocks.find? fun a => a.kind = .model ∧ SameUpToCase b.name a.name) =
      (d.blocksOf .model).find? fun a => SameUpToCase b.name a.name := by
    rw [Document.blocksOf, List.find?_filter]
    simp
  have hfound : ((d.blocksOf .model).find? fun a => SameUpToCase b.name a.name).isSome := by
    rw [List.find?_isSome]
    exact ⟨b, hb, by simpa using SameUpToCase.refl b.name⟩
  obtain ⟨a, ha⟩ := Option.isSome_iff_exists.1 hfound
  rw [modelBody?_text d b.isWordText_name.isWordUpToCase, hfind, Document.source, ha]
  rfl

/-- In a document whose models have different names all of them are listed, and each is read from
the first block whose name agrees with its own up to case, with the index of the document.  A block
that comes first in this sense is the source of its own model and of every later one whose name
agrees. -/
theorem listed_models (d : Document) (h : (d.names .model).Nodup) (settings : Settings) :
    modelNames d.text = d.names .model ∧
      (∀ b ∈ d.blocksOf .model,
        modelBody? d.text b.name = some (d.source b).body ∧
          compile (String.ofList d.text) (String.ofList b.name) settings =
            ((Index.ofText d.text).map fun index =>
              bodyFields index settings (d.source b).body) ∧
          compileReserved (String.ofList d.text) (String.ofList b.name) settings =
            ((Index.ofText d.text).map fun index =>
              (bodyFields index settings.unreserved (d.source b).body).filter
                fun f => settings.reserved.contains f.name)) ∧
      ∀ as a as', d.blocksOf .model = as ++ a :: as' →
        (∀ c ∈ as, ¬ SameUpToCase a.name c.name) →
          d.source a = a ∧ ∀ b ∈ as', SameUpToCase b.name a.name → d.source b = a := by
  refine ⟨?_, ?_, ?_⟩
  · rw [modelNames_text, firsts, firstsBy_eq_self (by simpa using h) (by simp)]
  · intro b hb
    have hbody := Document.modelBody?_source hb
    have hcompile (settings : Settings) :
        compile (String.ofList d.text) (String.ofList b.name) settings =
          (Index.ofText d.text).map fun index =>
            bodyFields index settings (d.source b).body := by
      have hread : modelBody? (String.ofList d.text).toList (String.ofList b.name).toList =
          some (d.source b).body := by simpa using hbody
      simpa using compile_of_modelBody? hread settings
    exact ⟨hbody, hcompile settings, by rw [compileReserved, hcompile, map_map_except]⟩
  · intro as a as' hblocks hfirst
    refine ⟨Document.source_eq hblocks hfirst (.refl a.name), ?_⟩
    intro b _ hname
    apply Document.source_eq hblocks _ hname
    intro c hc hsame
    exact hfirst c hc (hname.symm.trans hsame)

theorem isWordText_tag : IsWordText "Tag".toList := by decide

/-- A document with two models whose names differ in case alone. -/
def tagDocument : Document where
  blocks :=
    [{ kind := .model, name := "Tag".toList, body := " label String ".toList,
       isWordText_name := isWordText_tag },
     { kind := .model, name := "Post".toList, body := " title String ".toList },
     { kind := .model, name := "tag".toList, body := " weight Int ".toList }]

/-- The first two models are read from their own blocks, and the last one is not. -/
theorem listed_models_tag :
    (tagDocument.names .model).Nodup ∧
      modelNames tagDocument.text = ["Tag".toList, "Post".toList, "tag".toList] ∧
      modelBody? tagDocument.text "Tag".toList = some " label String ".toList ∧
      modelBody? tagDocument.text "Post".toList = some " title String ".toList ∧
      modelBody? tagDocument.text "tag".toList = some " label String ".toList := by
  have h : (tagDocument.names .model).Nodup := by decide
  obtain ⟨hnames, hbodies, hsource⟩ := listed_models tagDocument h {}
  have hblocks : tagDocument.blocksOf .model =
      [tagDocument.blocks[0], tagDocument.blocks[1], tagDocument.blocks[2]] := rfl
  obtain ⟨hown, hlater⟩ := hsource [] _ _ hblocks (by simp)
  obtain ⟨hpost, -⟩ := hsource [tagDocument.blocks[0]] _ _ hblocks (by decide)
  have hother := hlater tagDocument.blocks[2] (by simp) (by decide)
  have htag := (hbodies tagDocument.blocks[0] (by simp [hblocks])).1
  have htitle := (hbodies tagDocument.blocks[1] (by simp [hblocks])).1
  have hsmall := (hbodies tagDocument.blocks[2] (by simp [hblocks])).1
  rw [hown] at htag
  rw [hpost] at htitle
  rw [hother] at hsmall
  exact ⟨h, hnames, htag, htitle, hsmall⟩

/-- Of two models whose names differ in case alone the second one is listed, and what is looked up
by its name is the body of the first. -/
theorem listed_model_reads_other_block :
    (tagDocument.names .model).Nodup ∧ "tag".toList ∈ modelNames tagDocument.text ∧
      ∃ b ∈ tagDocument.blocksOf .model, b.name = "tag".toList ∧
        modelBody? tagDocument.text "tag".toList = some " label String ".toList ∧
        b.body ≠ " label String ".toList := by
  have hmem : tagDocument.blocks[2] ∈ tagDocument.blocksOf .model := .tail _ (.tail _ (.head _))
  exact ⟨by decide, by decide, _, hmem, rfl, by decide, by decide⟩

end FeatureGen.Schema
