import AlzheimerVPN.ContainerUtils
import AlzheimerVPN.Json

/-! `ImportController::processAmneziaConfig`: the MTU of the tunnels in an imported document. -/
namespace AlzheimerVPN.ImportController

open Lifecycle ContainerUtils

section

variable (container : JsonObject)

def dockerContainer : DockerContainer :=
  containerFromString (container.value "container").toString

/-- A container of WireGuard or AmneziaWG. -/
def isTunnel : Bool :=
  isAwgContainer (dockerContainer container) || dockerContainer container == .wireGuard

def protocolKey : String := containerTypeToProtocolString (dockerContainer container)

def containerConfig : JsonObject := (container.value (protocolKey container)).toObject

def lastConfig : String := ((containerConfig container).value "last_config").toString

def putLastConfig (text : String) : JsonObject :=
  container.insert (protocolKey container)
    (.obj ((containerConfig container).insert "last_config" (.str text)))

/-- A tunnel with a last configuration. -/
def Due (item : Json) : Prop :=
  isTunnel item.toObject = true ∧ (lastConfig item.toObject).isEmpty = false

/-- A tunnel without one. -/
def Blank (item : Json) : Prop :=
  isTunnel item.toObject = true ∧ (lastConfig item.toObject).isEmpty = true

def containersOf (config : JsonObject) : List Json := (config.value "containers").toArray

variable {container} (htunnel : isTunnel container = true) (text : String)
include htunnel

lemma dockerContainer_putLastConfig :
    dockerContainer (putLastConfig container text) = dockerContainer container := by
  have hkey : "container" ≠ protocolKey container := by
    rw [isTunnel] at htunnel
    rw [protocolKey]
    cases hc : dockerContainer container <;> simp [hc,isAwgContainer] at htunnel <;> decide
  simp [dockerContainer,putLastConfig,hkey]

lemma lastConfig_putLastConfig : lastConfig (putLastConfig container text) = text := by
  have hkey : protocolKey (putLastConfig container text) = protocolKey container := by
    rw [protocolKey,dockerContainer_putLastConfig htunnel,protocolKey]
  rw [lastConfig,containerConfig,hkey]
  simp [putLastConfig]

end

/-- The default MTU of the two protocols in a build, and how `QJsonDocument` writes an object and
reads one. -/
class Documents where
  awgMtu : String
  wireguardMtu : String
  toJson : JsonObject → String
  fromJson : String → JsonObject

open Documents

variable [Documents] (container : JsonObject)

def defaultMtu : String :=
  if isAwgContainer (dockerContainer container) then awgMtu else wireguardMtu

def putMtu : JsonObject :=
  putLastConfig container
    (toJson ((fromJson (lastConfig container)).insert "mtu" (.str (defaultMtu container))))

/-- The containers after the loop, if it replaces one. A tunnel without a last configuration
ends it. -/
def processContainers : List Json → Option (List Json)
  | [] => none
  | item::items =>
    if isTunnel item.toObject then
      if (lastConfig item.toObject).isEmpty then none
      else some (.obj (putMtu item.toObject)::(processContainers items).getD items)
    else (processContainers items).map (item::·)

def processAmneziaConfig (config : JsonObject) : JsonObject :=
  match processContainers (containersOf config) with
  | none => config
  | some containers => config.insert "containers" (.arr containers)

/-- A document that an MTU was put into is read as it was written. -/
def ReadsMtuBack : Prop := ∀ text mtu key,
  (fromJson (toJson ((fromJson text).insert "mtu" (.str mtu)))).value key =
    ((fromJson text).insert "mtu" (.str mtu)).value key

def HasMtu (item : Json) : Prop :=
  (fromJson (lastConfig item.toObject)).value "mtu" = .str (defaultMtu item.toObject)

/-- The container itself, or with a last configuration that has another MTU only. -/
def Kept (before after : Json) : Prop :=
  after = before ∨ ∃ text, after = .obj (putLastConfig before.toObject text) ∧
    ∀ key ≠ "mtu", (fromJson text).value key = (fromJson (lastConfig before.toObject)).value key

lemma getD_processContainers_cons (item : Json) (items : List Json) :
    (processContainers (item::items)).getD (item::items) =
      if isTunnel item.toObject then
        if (lastConfig item.toObject).isEmpty then item::items
        else .obj (putMtu item.toObject)::(processContainers items).getD items
      else item::(processContainers items).getD items := by
  rw [processContainers]
  split_ifs
  · rfl
  · rfl
  · exact Option.getD_map (item::·) items _

lemma hasMtu_putMtu (htunnel : isTunnel container = true) (hread : ReadsMtuBack) :
    HasMtu (.obj (putMtu container)) := by
  have hmtu : defaultMtu (putMtu container) = defaultMtu container := by
    rw [defaultMtu,putMtu,dockerContainer_putLastConfig htunnel,defaultMtu]
  rw [HasMtu,Json.toObject_obj,hmtu,putMtu,lastConfig_putLastConfig htunnel,hread]
  simp

lemma kept_processContainers (hread : ReadsMtuBack) (items : List Json) :
    items.Forall₂ Kept ((processContainers items).getD items) := by
  induction items with
  | nil => exact .nil
  | cons item items ih =>
    rw [getD_processContainers_cons]
    split_ifs
    · exact List.forall₂_same.mpr fun _ _ => .inl rfl
    · refine .cons (.inr ⟨_,rfl,fun key hkey => ?_⟩) ih
      rw [hread,JsonObject.value_insert,if_neg hkey]
    · exact .cons (.inl rfl) ih

lemma hasMtu_processContainers_iff (hread : ReadsMtuBack) (items : List Json) :
    (∀ item ∈ (processContainers items).getD items, Due item → HasMtu item) ↔
      items.Pairwise fun a b => Blank a → Due b → HasMtu b := by
  induction items with
  | nil => simp [processContainers]
  | cons item items ih =>
    rw [getD_processContainers_cons,List.pairwise_cons]
    split_ifs with ht hb
    · have hdue : ¬Due item := fun h => by simp [h.2] at hb
      have hblank : Blank item := ⟨ht,hb⟩
      simp only [List.forall_mem_cons,hdue,hblank,false_imp_iff,true_and,true_imp_iff]
      refine ⟨fun h => ⟨h,List.pairwise_of_forall_mem_list fun _ _ b hb _ => h b hb⟩,And.left⟩
    · have hblank : ¬Blank item := fun h => hb h.2
      simp [hblank,hasMtu_putMtu _ ht hread,ih]
    · have hdue : ¬Due item := fun h => ht h.1
      have hblank : ¬Blank item := fun h => ht h.1
      simp [hdue,hblank,ih]

section

omit [Documents]

/-- Documents with nothing but their MTU. -/
@[reducible] def mtuDocuments : Documents where
  awgMtu := "1376"
  wireguardMtu := "1376"
  toJson object := (object.value "mtu").toString
  fromJson text := [("mtu",.str text)]

def tunnel (name key lastConfig : String) : Json :=
  .obj [("container",.str name),(key,.obj [("last_config",.str lastConfig)])]

end
end AlzheimerVPN.ImportController
