import GenerationGateway.HttpApi.Options
import GenerationGateway.Library.Table
import GenerationGateway.Pricing.Estimates

/-!
# Media models

A public model id is a platform and a model. A route names the provider and the model that
the provider's descriptor resolves, and the catalog tells which models, providers and rules
are enabled.
-/

namespace GenerationGateway

open Checks Relational Text ImageOptions Pricing

structure MediaModelRoute where
  provider : String
  publicModel : String
  internalModel : String
  deriving DecidableEq

def publicMediaModelID (provider model : String) : String :=
  toLower (trimSpace provider) ++ "/" ++ trimSpace model

def parsePublicMediaModelID (value : String) : Except OptionError (String × String) :=
  let value := trimSpace value
  if value = "" then .error (.text "model is required and must use platform/model")
  else
    match split value '/' with
    | [platform, model] =>
      if trimSpace platform = "" ∨ trimSpace model = "" then
        .error (.text "model must use platform/model, for example leonardo/gpt-image-2")
      else .ok (toLower (trimSpace platform), trimSpace model)
    | _ => .error (.text "model must use platform/model, for example leonardo/gpt-image-2")

def mediaModelPermission (provider model : String) : String :=
  toLower (trimSpace provider) ++ ":" ++ trimSpace model

def allowedMediaModel (models : List String) (route : MediaModelRoute) : Bool :=
  allowed models (mediaModelPermission route.provider route.internalModel)

/-! ### The registry of the providers -/

/-- The public ids of Adobe's models with their kinds. -/
def adobeModelSpecs : List (String × String) :=
  [("gpt-image-2", "image"), ("nano-banana-2", "image"), ("veo-3.1", "video"),
    ("veo-3.1-fast", "video"), ("seedance-2.0", "video"), ("seedance-2.0-fast", "video"),
    ("kling-3.0-omni", "video")]

structure Descriptor where
  capabilities : List String
  resolveModel : String → String → Except OptionError String

def leonardoDescriptor : Descriptor where
  capabilities := ["image", "video", "audio"]
  resolveModel _ model := .ok model

def adobeDescriptor : Descriptor where
  capabilities := ["image", "video"]
  resolveModel kind model :=
    match adobeModelSpecs.find? fun spec => spec.1 = model with
    | some spec =>
      if spec.2 = kind then .ok spec.1
      else .error (.text "selected model is not available from provider adobe")
    | none => .error (.text "selected model is not available from provider adobe")

def creativeFabricaDescriptor : Descriptor where
  capabilities := ["image", "video"]
  resolveModel kind model :=
    if kind ≠ "image" ∧ kind ≠ "video" then
      .error (.text ("provider creativefabrica does not support " ++ kind ++ " generation"))
    else if trimSpace model = "" then .error (.text "model is required")
    else .ok (trimSpace model)

def descriptor? (providerID : String) : Option Descriptor :=
  [("leonardo", leonardoDescriptor), ("adobe", adobeDescriptor),
    ("creativefabrica", creativeFabricaDescriptor)].lookup providerID

def resolveModel (kind providerID model : String) : Except OptionError String :=
  let providerID := normalizedProvider providerID
  let model := trimSpace model
  if model = "" then .error (.text "model is required")
  else
    match descriptor? providerID with
    | none => .error (.text "provider adapter is not registered")
    | some descriptor =>
      if descriptor.capabilities.contains kind then descriptor.resolveModel kind model
      else .error (.text ("provider " ++ providerID ++ " does not support " ++ kind ++
        " generation"))

def resolveMediaModel (kind model : String) : Except OptionError MediaModelRoute := do
  let (provider, internalModel) ← parsePublicMediaModelID model
  let canonical ← resolveModel kind provider internalModel
  return ⟨provider, publicMediaModelID provider canonical, canonical⟩

/-- Every descriptor keeps a trimmed model. -/
theorem descriptor_resolveModel {providerID kind model canonical : String}
    {descriptor : Descriptor} (hfound : descriptor? providerID = some descriptor)
    (htrim : trimSpace model = model) (h : descriptor.resolveModel kind model = .ok canonical) :
    canonical = model := by
  obtain ⟨before, after, hlist, -⟩ := List.lookup_eq_some_iff.mp hfound
  have hmem : (providerID, descriptor) ∈
      [("leonardo", leonardoDescriptor), ("adobe", adobeDescriptor),
        ("creativefabrica", creativeFabricaDescriptor)] := by
    rw [hlist]
    simp
  simp only [List.mem_cons, Prod.mk.injEq, List.not_mem_nil, or_false] at hmem
  rcases hmem with ⟨-, rfl⟩ | ⟨-, rfl⟩ | ⟨-, rfl⟩
  · cases h
    rfl
  · dsimp only [adobeDescriptor] at h
    split at h
    · rename_i spec hspec
      split_ifs at h
      cases h
      simpa using List.find?_some hspec
    · cases h
  · dsimp only [creativeFabricaDescriptor] at h
    split_ifs at h
    cases h
    exact htrim

theorem resolveModel_trimmed {kind providerID model canonical : String}
    (h : resolveModel kind providerID model = .ok canonical) :
    trimSpace canonical = canonical ∧ canonical ≠ "" := by
  unfold resolveModel at h
  dsimp only at h
  split_ifs at h with hempty
  split at h
  · cases h
  · rename_i descriptor hfound
    split_ifs at h
    rw [descriptor_resolveModel hfound (trimSpace_trimSpace model) h]
    exact ⟨trimSpace_trimSpace model, hempty⟩

/-- A route names the model without spaces around it. -/
theorem resolveMediaModel_trimmed {kind model : String} {route : MediaModelRoute}
    (h : resolveMediaModel kind model = .ok route) :
    trimSpace route.internalModel = route.internalModel ∧ route.internalModel ≠ "" := by
  unfold resolveMediaModel at h
  obtain ⟨parsed, -, h⟩ := bind_eq_ok.mp h
  obtain ⟨canonical, hcanonical, h⟩ := bind_eq_ok.mp h
  cases h
  exact resolveModel_trimmed hcanonical

theorem parsePublicMediaModelID_ok {value provider model : String}
    (h : parsePublicMediaModelID value = .ok (provider, model)) :
    ∃ platform, provider = toLower (trimSpace platform) := by
  unfold parsePublicMediaModelID at h
  dsimp only at h
  split_ifs at h
  split at h
  · split_ifs at h
    simp only [Except.ok.injEq, Prod.mk.injEq] at h
    exact ⟨_, h.1.symm⟩
  · cases h

/-- The provider of a route is in small letters already. -/
theorem resolveMediaModel_provider {kind model : String} {route : MediaModelRoute}
    (h : resolveMediaModel kind model = .ok route) :
    toLower (trimSpace route.provider) = route.provider := by
  unfold resolveMediaModel at h
  obtain ⟨⟨provider, internalModel⟩, hparsed, h⟩ := bind_eq_ok.mp h
  obtain ⟨canonical, -, h⟩ := bind_eq_ok.mp h
  obtain ⟨platform, rfl⟩ := parsePublicMediaModelID_ok hparsed
  have hroute := Except.ok.inj h
  rw [← hroute]
  exact toLower_trimSpace_idem platform

/-! ### The catalog -/

instance : Keyed String ModelConfig := ⟨ModelConfig.id⟩

structure Provider where
  id : String
  enabled : Bool
  deriving DecidableEq

instance : Keyed String Provider := ⟨Provider.id⟩

structure ModelProviderConfig where
  providerID : String
  modelID : String
  enabled : Bool
  deriving DecidableEq

instance : Keyed (String × String) ModelProviderConfig := ⟨fun c => (c.providerID, c.modelID)⟩

/-- The tables that price a request. -/
structure Catalog where
  models : Table ModelConfig
  providers : Table Provider
  configs : Table ModelProviderConfig
  costRules : CostRules

namespace Catalog

variable (catalog : Catalog)

def getModel (id : String) : Option ModelConfig :=
  (catalog.models.get? id).filter ModelConfig.enabled

def getModelProviderConfig (providerID modelID : String) : Option ModelProviderConfig :=
  match catalog.configs.get? (providerID, modelID), catalog.providers.get? providerID with
  | some config, some provider =>
    if config.enabled && provider.enabled then some config else none
  | _, _ => none

/-- `providerModelContext`: the rules of the provider of an enabled configuration. -/
def providerModelContext (providerID modelID : String) : Option RuleStore :=
  (catalog.getModelProviderConfig providerID modelID).map fun config =>
    providerModelStore catalog.costRules config.providerID

end Catalog

end GenerationGateway
