import DisplayDrivers.Lib.Run
import Mathlib.Data.List.Nodup
import Mathlib.Logic.Function.Basic

/-! # Colour processing properties (`msm/sde/sde_color_processing.c`)

Each colour processing feature of a CRTC has a node with its value.
-/

namespace DisplayDrivers.ColorProc

def eNoEnt : Int := -2

def ePerm : Int := -1

def eFault : Int := -14

def eInval : Int := -22

def maxMixersPerCrtc : ℕ := 6

/-- `SDE_CP_CRTC_*` -/
inductive Feature
  | dsppIgc
  | dsppPcc
  | dsppGc
  | dsppHsic
  | dsppMemcolSkin
  | dsppMemcolSky
  | dsppMemcolFoliage
  | dsppMemcolProt
  | dsppSixzone
  | dsppGamut
  | dsppDither
  | dsppHistCtrl
  | dsppHistIrq
  | dsppAd
  | dsppVlut
  | dsppAdMode
  | dsppAdInit
  | dsppAdCfg
  | dsppAdInput
  | dsppAdAssertiveness
  | dsppAdBacklight
  | dsppAdStrength
  | dsppAdRoi
  | lmGc

/-- The features that `sde_cp_update_list` and `sde_cp_ad_validate_prop` take for assertive
    display. -/
def Feature.isAd : Feature → Bool
  | dsppAdMode | dsppAdInit | dsppAdCfg | dsppAdInput | dsppAdAssertiveness | dsppAdBacklight |
    dsppAdStrength
  | dsppAdRoi => true
  | _ => false

def Feature.isDspp : Feature → Bool
  | lmGc => false
  | _ => true

/-- The type that `property->flags` and `prop_node->prop_flags` say. -/
inductive PropFlags
  | blob
  | range
  | enum
deriving DecidableEq

/-- `struct sde_cp_node`; a blob is its data. -/
structure CpNode where
  propertyId : ℕ
  propFlags : PropFlags
  feature : Feature
  blobPtr : Option (List ℕ) := none
  propVal : ℕ := 0
  propBlobSz : ℕ := 0

/-- `struct sde_crtc_mixer` with the operations of its blocks; the features of the assertive display
    share one.  `validateAd` is the answer of `validate_ad`. -/
structure Mixer where
  hwLm : Bool := true
  lmSetupGc : Bool := true
  hwDspp : Bool := true
  dsppSetup : Feature → Bool := fun _ => true
  dsppSetupAd : Bool := true
  validateAd : Option Int := some 0

inductive Payload
  | none
  | val (propVal : ℕ)
  | data (bytes : List ℕ)
deriving DecidableEq

/-! ## One node -/

/-- `sde_cp_get_hw_payload`: `hw_cfg->payload` and `feature_enabled`. -/
def CpNode.getHwPayload (node : CpNode) : Payload × Bool :=
  match node.propFlags with
  | .blob =>
    match node.blobPtr with
    | some blob => (.data blob, true)
    | none => (.none, false)
  | .range =>
    if node.propVal = 0 then (.none, false)
    else match node.blobPtr with
      | none => (.val node.propVal, true)
      | some blob => (.data blob, true)
  | .enum => (.val node.propVal, node.propVal ≠ 0)

/-- `sde_cp_handle_range_property`; `userData` is what `copy_from_user` gets at, which leaves zeros
    behind where there is no more. -/
def CpNode.handleRangeProperty (node : CpNode) (val : ℕ) (userData : List ℕ) : CpNode × Int :=
  match node.blobPtr with
  | none => ({ node with propVal := val }, 0)
  | some blob =>
    if val = 0 then ({ node with propVal := 0 }, 0)
    else
      let copied := userData.take blob.length ++ List.replicate (blob.length - userData.length) 0
      if userData.length < blob.length then ({ node with blobPtr := some copied }, eFault)
      else ({ node with blobPtr := some copied, propVal := val }, 0)

/-- `sde_cp_enable_crtc_blob_property`; `lookupBlob` is what `drm_property_lookup_blob` finds. -/
def CpNode.enableCrtcBlobProperty (node : CpNode) (lookupBlob : Option (List ℕ)) : CpNode × Int :=
  match lookupBlob with
  | none => (node, eInval)
  | some blob => if blob.length ≠ node.propBlobSz then (node,
      eInval) else ({ node with blobPtr := some blob }, 0)

def CpNode.disableCrtcProperty (node : CpNode) : CpNode × Int :=
  match node.propFlags with
  | .blob => ({ node with blobPtr := none }, 0)
  | .range => node.handleRangeProperty 0 []
  | .enum => ({ node with propVal := 0 }, 0)

def CpNode.enableCrtcProperty (node : CpNode) (val : ℕ) (lookupBlob : Option (List ℕ))
    (userData : List ℕ) :
    CpNode × Int :=
  match node.propFlags with
  | .blob => node.enableCrtcBlobProperty lookupBlob
  | .range => node.handleRangeProperty val userData
  | .enum => ({ node with propVal := val }, 0)

/-- `sde_cp_crtc_set_property` where it takes the value. -/
def CpNode.setValue (node : CpNode) (val : ℕ) (lookupBlob : Option (List ℕ)) (userData : List ℕ) :
    CpNode × Int :=
  if val = 0 then node.disableCrtcProperty else node.enableCrtcProperty val lookupBlob userData

/-! ## The mixers -/

/-- The body of the loop in `sde_cp_crtc_setfeature`. -/
def Mixer.setfeature (mixer : Mixer) (feature : Feature) : Int :=
  if !mixer.hwLm then eInval
  else match feature with
    | .lmGc => if mixer.lmSetupGc then 0 else eInval
    | .dsppHistIrq => if mixer.hwDspp then 0 else eInval
    | .dsppAd => eInval
    | feature =>
      if mixer.hwDspp && (if feature.isAd then mixer.dsppSetupAd else mixer.dsppSetup feature)
        then 0 else eInval

/-- The loop in `sde_cp_crtc_setfeature`, which stops where a mixer cannot be programmed. -/
def setfeatureMixers (feature : Feature) : List Mixer → Int
  | [] => 0
  | mixer :: rest =>
    let ret := mixer.setfeature feature
    if ret ≠ 0 then ret else setfeatureMixers feature rest

def adValidateProp (feature : Feature) : List Mixer → Int
  | [] => 0
  | mixer :: rest =>
    if !mixer.hwDspp then eInval
    -- not an AD property
    else if !feature.isAd then 0
    else match mixer.validateAd with
      | none => eInval
      | some ret => if ret ≠ 0 then ret else adValidateProp feature rest

/-! ## The CRTC -/

/-- What the colour processing needs of `struct sde_crtc`; for each node what it was last asked for,
    what has been programmed, whether that was lost, and whether it was cleared off a list. -/
structure CpCrtc where
  featureList : List ℕ
  node : ℕ → CpNode
  activeList : Bool → List ℕ := fun _ => []
  dirtyList : Bool → List ℕ := fun _ => []
  activeDetached : List ℕ := []
  dirtyDetached : List ℕ := []
  requested : ℕ → Payload × Bool
  programmed : ℕ → Payload × Bool
  lost : ℕ → Bool := fun _ => false
  cleared : ℕ → Bool := fun _ => false

def CpCrtc.updateList (s : CpCrtc) (id : ℕ) (dirtyList : Bool) : CpCrtc :=
  let ad := (s.node id).feature.isAd
  if dirtyList then { s with dirtyList := Function.update s.dirtyList ad (s.dirtyList ad ++ [id]) }
  else { s with activeList := Function.update s.activeList ad (s.activeList ad ++ [id]) }

/-- `list_del_init(&prop_node->active_list)` -/
def CpCrtc.delActive (s : CpCrtc) (id : ℕ) : CpCrtc :=
  { s with
    activeList := fun ad => (s.activeList ad).erase id
    activeDetached := s.activeDetached.erase id }

/-- `list_del_init(&prop_node->dirty_list)` -/
def CpCrtc.delDirty (s : CpCrtc) (id : ℕ) : CpCrtc :=
  { s with
    dirtyList := fun ad => (s.dirtyList ad).erase id, dirtyDetached := s.dirtyDetached.erase id }

/-- `sde_cp_crtc_set_property` up to where it changes something: the node of the property. -/
def CpCrtc.checkProperty (s : CpCrtc) (property : ℕ) (mixers : List Mixer) : Except Int ℕ :=
  match s.featureList.find? fun id => (s.node id).propertyId = property with
  | none => .error eNoEnt
  | some id =>
    if maxMixersPerCrtc < mixers.length then .error ePerm
    else if (s.node id).feature.isDspp && mixers.countP
      (·.hwDspp) < mixers.length then .error eInval
    else if mixers.countP (·.hwLm) < mixers.length then .error eInval
    else
      let ret := adValidateProp (s.node id).feature mixers
      if ret ≠ 0 then .error ret else .ok id

def CpCrtc.setProperty (s : CpCrtc) (property val : ℕ) (mixers : List Mixer)
    (lookupBlob : Option (List ℕ))
    (userData : List ℕ) : CpCrtc × Int :=
  match s.checkProperty property mixers with
  | .error ret => (s, ret)
  | .ok id =>
    -- remove the property from dirty list
    let s := s.delDirty id
    let (node, ret) := (s.node id).setValue val lookupBlob userData
    let s := { s with node := Function.update s.node id node }
    if ret ≠ 0 then (s, ret)
    else
      let s := (s.delActive id).updateList id true
      ({ s with
          requested := Function.update s.requested id node.getHwPayload
          cleared := Function.update s.cleared id false }, 0)

def CpCrtc.setfeature (mixers : List Mixer) (s : CpCrtc) (id : ℕ) : CpCrtc :=
  if setfeatureMixers (s.node id).feature mixers ≠ 0 then s
  else
    let payload := (s.node id).getHwPayload
    let s := if payload.2 then s.updateList id false else s.delActive id
    { s.delDirty id with
      programmed := Function.update s.programmed id payload
      lost := Function.update s.lost id false }

def CpCrtc.applyProperties (s : CpCrtc) (mixers : List Mixer) : CpCrtc :=
  if mixers = [] then s
  else if s.dirtyList false = [] ∧ s.dirtyList true = [] then s
  else
    let s := (s.dirtyList false).foldl (CpCrtc.setfeature mixers) s
    (s.dirtyList true).foldl (CpCrtc.setfeature mixers) s

/-- The body of the loops in `sde_cp_crtc_suspend`. -/
def CpCrtc.suspendNode (s : CpCrtc) (id : ℕ) : CpCrtc := (s.updateList id true).delActive id

def CpCrtc.suspend (s : CpCrtc) : CpCrtc :=
  let s := (s.activeList false).foldl CpCrtc.suspendNode s
  let s := (s.activeList true).foldl CpCrtc.suspendNode s
  { s with lost := fun id => s.lost id || (s.programmed id).2 }

/-- `sde_cp_crtc_clear`, which removes the heads and not the nodes. -/
def CpCrtc.clear (s : CpCrtc) : CpCrtc :=
  { s with
    activeList := fun _ => []
    dirtyList := fun _ => []
    activeDetached := s.activeDetached ++ (s.activeList false ++ s.activeList true)
    dirtyDetached := s.dirtyDetached ++ (s.dirtyList false ++ s.dirtyList true)
    cleared := fun id => s.cleared id ||
      decide (id ∈ s.activeList false ++ s.activeList
        true ++ (s.dirtyList false ++ s.dirtyList true)) }

/-! ## Runs -/

inductive Input
  | setProperty (property val : ℕ) (mixers : List Mixer) (lookupBlob : Option (List ℕ))
    (userData : List ℕ)
  | applyProperties (mixers : List Mixer)
  | suspend
  | clear

def step (s : CpCrtc) : Input → CpCrtc
  | .setProperty property val mixers lookupBlob userData =>
    (s.setProperty property val mixers lookupBlob userData).1
  | .applyProperties mixers => s.applyProperties mixers
  | .suspend => s.suspend
  | .clear => s.clear

/-- A property that is installed: `sde_cp_crtc_prop_attach`, and for a range property that has one
    the local blob of `sde_cp_create_local_blob`. -/
structure Install where
  propertyId : ℕ
  propFlags : PropFlags
  feature : Feature
  propBlobSz : ℕ := 0
  localBlob : Option ℕ := none

def Install.node (install : Install) : CpNode where
  propertyId := install.propertyId
  propFlags := install.propFlags
  feature := install.feature
  propBlobSz := install.propBlobSz
  blobPtr := if install.propFlags = .range then install.localBlob.map (List.replicate · 0) else none

/-- The CRTC after `sde_cp_crtc_install_properties`. -/
def start (featureList : List ℕ) (installed : ℕ → Install) : CpCrtc where
  featureList := featureList
  node id := (installed id).node
  requested id := (installed id).node.getHwPayload
  programmed id := (installed id).node.getHwPayload

end DisplayDrivers.ColorProc
