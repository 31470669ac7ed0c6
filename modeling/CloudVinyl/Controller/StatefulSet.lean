import CloudVinyl.Controller.Pods
import CloudVinyl.Lib.Paths
import CloudVinyl.Webhook.Update

set_option relaxedAutoImplicit false
set_option autoImplicit false

/-!
# The StatefulSet of a cache

The pod template that `reconcileStatefulSet` of `internal/controller/statefulset.go` builds, with
the volumes that `filestorage.go` provisions for file storages without a path. Of a container its
name, its arguments, its ports and its mounts are modelled; images, environments, probes and
resource requirements are left out.

## Main definitions

* `Controller.provisionFileStorage`, `Controller.fileStorageVolumeName` — the volume of a file
  storage without a path.
* `Controller.storageArgs`, `Controller.varnishdArgs` — the arguments of varnishd.
* `Controller.statefulSet` — the volumes, claim templates and containers.

## Main results

* `Controller.statefulSet_volumeNames`, `Controller.varnishContainer_mountPaths` — the names of all
  volumes, and the paths at which the varnish container mounts them.
-/

namespace CloudVinyl.Controller

open Webhook (sortStrings effectiveFlavor)

/-! ## Provisioned file storages -/

/-- `FileStorageMountRoot`: where provisioned volumes are mounted. -/
def fileStorageMountRoot : Text := "/var/lib/vinyl-storage"

/-- `fileStorageMinMargin`: 64 MiB. -/
def fileStorageMinMargin : ℤ := 64 * 2 ^ 20

/-- `fileStorageMarginPercent` -/
def fileStorageMarginPercent : ℤ := 5

/-- The value of 64-bit arithmetic. -/
def int64 (n : ℤ) : ℤ := n.bmod (2 ^ 64)

/-- `path.Join` of an absolute path and another one. -/
def joinPath (p q : Text) : Text := Paths.clean (p ++ "/" ++ q)

/-- `provisionedStorage` -/
structure ProvisionedStorage where
  volume : Text
  mountPath : Text
  filePath : Text
  sizeLimit : ℤ
  deriving DecidableEq

/-- `isProvisionedFileStorage` -/
def isProvisionedFileStorage (s : StorageSpec) : Bool := s.type = "file" && s.path = []

/-- `fileStorageSizeLimit` -/
def fileStorageSizeLimit (size : ℤ) : ℤ :=
  let margin := max ((int64 (size * fileStorageMarginPercent)).tdiv 100) fileStorageMinMargin
  int64 (size + margin)

/-- The 32-bit FNV-1a hash of the bytes of a text. -/
def fnv32a (s : Text) : UInt32 :=
  (s.flatMap String.utf8EncodeChar).foldl (fun h b => (h ^^^ b.toUInt32) * 16777619) 2166136261

/-- The verb `%08x`. -/
def hex08 (n : UInt32) : Text :=
  let digits := Nat.toDigits 16 n.toNat
  List.replicate (8 - digits.length) '0' ++ digits

/-- `strings.TrimRight` of dashes. -/
def trimRightDashes (s : Text) : Text := (s.reverse.dropWhile (· = '-')).reverse

/-- The letters and digits of a name in lower case; every other character is a dash. -/
def sanitizeStorageName (lower : Char → Char) (name : Text) : Text :=
  (name.map lower).map fun c => if 'a' ≤ c ∧ c ≤ 'z' ∨ '0' ≤ c ∧ c ≤ '9' then c else '-'

/-- The part of a volume name that stands for the storage name. -/
def storageBase (lower : Char → Char) (name : Text) : Text :=
  let base := trimRightDashes ((sanitizeStorageName lower name).dropWhile (· = '-'))
  if 45 < base.length then trimRightDashes (base.take 45) else base

section Volumes

variable (lower : Char → Char)

/-- `fileStorageVolumeName`; `lower` is `unicode.ToLower`. -/
def fileStorageVolumeName (name : Text) : Text :=
  let base := storageBase lower name
  if base = [] then "storage-" ++ hex08 (fnv32a name)
  else "storage-" ++ base ++ "-" ++ hex08 (fnv32a name)

/-- `provisionFileStorage` -/
def provisionFileStorage (s : StorageSpec) : ProvisionedStorage :=
  let mount := joinPath fileStorageMountRoot s.name
  { volume := fileStorageVolumeName lower s.name
    mountPath := mount
    filePath := joinPath mount (s.name ++ ".bin")
    sizeLimit := fileStorageSizeLimit s.size }

/-- `provisionedFileStorages` -/
def provisionedFileStorages (storage : List StorageSpec) : List ProvisionedStorage :=
  (storage.filter isProvisionedFileStorage).map (provisionFileStorage lower)

/-- `fileStoragePath` -/
def fileStoragePath (s : StorageSpec) : Text :=
  if isProvisionedFileStorage s then (provisionFileStorage lower s).filePath else s.path

/-- What backs a volume of the pod. -/
inductive VolumeSource where
  | secret (name key : Text)
  | emptyDir (sizeLimit : Option ℤ)
  | configMap (name : Text)
  /-- A source that the user gives. -/
  | declared
  deriving DecidableEq

/-- `corev1.Volume`: its name and what it is made of. -/
structure Volume where
  name : Text
  source : VolumeSource

/-- `fileStorageVolumes` -/
def fileStorageVolumes (ps : List ProvisionedStorage) : List Volume :=
  ps.map fun p => ⟨p.volume, .emptyDir (some p.sizeLimit)⟩

/-- `fileStorageMounts` -/
def fileStorageMounts (ps : List ProvisionedStorage) : List VolumeMount :=
  ps.map fun p => ⟨p.volume, p.mountPath⟩

end Volumes

/-! ## The arguments of varnishd -/

/-- `agentPort` -/
def agentPort : ℤ := 9090

/-- `adminPort` -/
def adminPort : ℤ := 6082

/-- `exporterPort` -/
def exporterPort : ℤ := 9131

/-- `tracerMetricsPort` -/
def tracerMetricsPort : ℤ := 9464

/-- `defaultProxyProtocolPort` -/
def defaultProxyProtocolPort : ℤ := 8081

/-- `agentSecretName` -/
def agentSecretName : Text := "cloud-vinyl-agent-token"

/-- `agentTokenKey` -/
def agentTokenKey : Text := "agent-token"

/-- `varnishSecretKey` -/
def varnishSecretKey : Text := "varnish-secret"

/-- `varnishSecretPath` -/
def varnishSecretPath : Text := "/etc/varnish/secret"

/-- `volumeVarnishWorkdir` -/
def volumeVarnishWorkdir : Text := "varnish-workdir"

/-- `varnishWorkdirMountPath` -/
def varnishWorkdirMountPath : Text := "/var/lib/varnish"

/-- `varnishWorkdir`: the directory that is handed to varnishd, below the mount. -/
def varnishWorkdir : Text := varnishWorkdirMountPath ++ "/varnishd"

/-- `bootstrapVCLPath` -/
def bootstrapVCLPath : Text := "/etc/varnish/default.vcl"

/-- `varnishAdminAddr` -/
def varnishAdminAddr : Text := "127.0.0.1:" ++ Text.decimalInt adminPort

/-- `proxyProtocolPort` -/
def proxyProtocolPort (vc : VinylCache) : ℤ :=
  if vc.spec.proxyProtocol.port ≠ 0 then vc.spec.proxyProtocol.port else defaultProxyProtocolPort

/-- The value of `-s` for a storage; other types are skipped. -/
def storageArg (lower : Char → Char) (s : StorageSpec) : Option Text :=
  if s.type = "malloc" then some (s.name ++ "=malloc," ++ Text.decimalInt s.size)
  else if s.type = "file" then
    some (s.name ++ "=file," ++ fileStoragePath lower s ++ "," ++ Text.decimalInt s.size)
  else none

/-- `storageArgs` -/
def storageArgs (lower : Char → Char) (storage : List StorageSpec) : List Text :=
  (storage.filterMap (storageArg lower)).flatMap fun arg => ["-s", arg]

/-- `varnishParamArgs`, for a map with one entry for each key. -/
def varnishParamArgs (params : List (Text × Text)) : List Text :=
  (sortStrings (params.map Prod.fst)).flatMap fun k =>
    ["-p", k ++ "=" ++ (params.lookup k).getD []]

/-- `varnishdArgs` -/
def varnishdArgs (lower : Char → Char) (vc : VinylCache) : List Text :=
  let listen : List Text :=
    ["-F", "-f", bootstrapVCLPath, "-n", varnishWorkdir, "-a",
      "http=:" ++ Text.decimalInt varnishPort ++ ",HTTP"]
  let proxy : List Text :=
    if vc.spec.proxyProtocol.enabled then
      ["-a", "proxy=:" ++ Text.decimalInt (proxyProtocolPort vc) ++ ",PROXY"]
    else []
  let fixed : List Text :=
    ["-j", "none", "-T", varnishAdminAddr, "-S", varnishSecretPath, "-p", "feature=+http2"]
  listen ++ proxy ++ fixed ++ storageArgs lower vc.spec.storage ++
    varnishParamArgs vc.spec.varnishParams

/-! ## Containers -/

/-- `corev1.ContainerPort` -/
structure ContainerPort where
  name : Text
  containerPort : ℤ

/-- `corev1.Container`: what the results look at. -/
structure Container where
  name : Text
  args : List Text
  ports : List ContainerPort
  volumeMounts : List VolumeMount

/-- The mounts of the varnish container that every cache has. -/
def operatorMounts : List VolumeMount :=
  [⟨agentTokenKey, "/run/vinyl"⟩, ⟨varnishSecretKey, varnishSecretPath⟩,
    ⟨volumeVarnishWorkdir, varnishWorkdirMountPath⟩, ⟨"varnish-tmp", "/tmp"⟩,
    ⟨"bootstrap-vcl", bootstrapVCLPath⟩]

/-- The container of varnishd. -/
def varnishContainer (lower : Char → Char) (vc : VinylCache) : Container where
  name := "varnish"
  args := varnishdArgs lower vc
  ports := ⟨"cache-http", varnishPort⟩ ::
    if vc.spec.proxyProtocol.enabled then [⟨"proxy", proxyProtocolPort vc⟩] else []
  volumeMounts := operatorMounts ++
    (fileStorageMounts (provisionedFileStorages lower vc.spec.storage) ++ vc.spec.pod.volumeMounts)

/-- The container of the agent. -/
def agentContainer : Container where
  name := agentContainerName
  args := []
  ports := [⟨"agent", agentPort⟩]
  volumeMounts := [⟨agentTokenKey, "/run/vinyl"⟩, ⟨varnishSecretKey, varnishSecretPath⟩]

/-- The `varnishstatPath` of `flavorTraits`. -/
def varnishstatPath : Flavor → Text
  | .varnish => []
  | .vinyl => "/usr/bin/vinylstat"

/-- The port that the exporter listens on. -/
def effectiveExporterPort (exp : ExporterSpec) : ℤ :=
  if exp.port ≠ 0 then exp.port else exporterPort

/-- `buildExporterContainer` -/
def buildExporterContainer (exp : ExporterSpec) (f : Flavor) : Container where
  name := "vinyl-exporter"
  args :=
    let listen : List Text :=
      ["-n", varnishWorkdir, "-web.listen-address",
        ":" ++ Text.decimalInt (effectiveExporterPort exp)]
    let stat : List Text :=
      if varnishstatPath f ≠ [] then ["-varnishstat-path", varnishstatPath f] else []
    listen ++ stat
  ports := [⟨"exporter", effectiveExporterPort exp⟩]
  volumeMounts := [⟨volumeVarnishWorkdir, varnishWorkdirMountPath⟩]

/-- `buildTracerContainer` -/
def buildTracerContainer : Container where
  name := "vinyl-tracer"
  args := []
  ports := [⟨"tracer-metrics", tracerMetricsPort⟩]
  volumeMounts := [⟨volumeVarnishWorkdir, varnishWorkdirMountPath⟩]

/-- The exporter that the cache has, if it is enabled. -/
def enabledExporter (spec : VinylCacheSpec) : Option ExporterSpec :=
  spec.exporter.filter (·.enabled)

/-! ## The template -/

/-- `appsv1.StatefulSet`: its containers, volumes and claim templates. -/
structure StatefulSet where
  containers : List Container
  volumes : List Volume
  volumeClaimTemplates : List PersistentVolumeClaim

/-- The volumes that every cache has. -/
def operatorVolumes (vc : VinylCache) : List Volume :=
  [⟨agentTokenKey, .secret agentSecretName agentTokenKey⟩,
    ⟨varnishSecretKey, .secret agentSecretName varnishSecretKey⟩,
    ⟨volumeVarnishWorkdir, .emptyDir none⟩, ⟨"varnish-tmp", .emptyDir none⟩,
    ⟨"bootstrap-vcl", .configMap (vc.name ++ "-bootstrap-vcl")⟩]

/-- What `reconcileStatefulSet` puts into the StatefulSet. -/
def statefulSet (lower : Char → Char) (vc : VinylCache) : StatefulSet where
  containers := [varnishContainer lower vc, agentContainer] ++
    ((enabledExporter vc.spec).toList.map fun exp =>
      buildExporterContainer exp (effectiveFlavor vc.spec.flavor)) ++
    if vc.spec.tracing.enabled then [buildTracerContainer] else []
  volumes := operatorVolumes vc ++
    (fileStorageVolumes (provisionedFileStorages lower vc.spec.storage) ++
      vc.spec.pod.volumes.map fun n => ⟨n, .declared⟩)
  volumeClaimTemplates := vc.spec.volumeClaimTemplates

/-- The names of the volumes that the containers can mount. -/
def StatefulSet.volumeNames (sts : StatefulSet) : List Text :=
  sts.volumes.map (·.name) ++ sts.volumeClaimTemplates.map (·.name)

/-- The paths at which the varnish container mounts volumes. -/
def mountPaths (lower : Char → Char) (vc : VinylCache) : List Text :=
  (varnishContainer lower vc).volumeMounts.map (·.mountPath)

section Names

variable (lower : Char → Char) (vc : VinylCache)

/-- The names of the operator's own volumes are those that the webhook reserves. -/
lemma operatorVolumes_names : (operatorVolumes vc).map (·.name) = Webhook.reservedVolumeNames := rfl

/-- The names of volumes: the operator's, the provisioned ones and the user's. -/
lemma statefulSet_volumeNames :
    (statefulSet lower vc).volumeNames =
      Webhook.reservedVolumeNames ++
        ((provisionedFileStorages lower vc.spec.storage).map (·.volume) ++
          Webhook.declaredVolumes vc.spec) := by
  have huser : (vc.spec.pod.volumes.map fun n => Volume.mk n .declared).map (·.name) =
      vc.spec.pod.volumes := by
    rw [List.map_map]
    exact List.map_id _
  have hprovisioned : ∀ ps, (fileStorageVolumes ps).map (·.name) = ps.map (·.volume) := by
    intro ps
    rw [fileStorageVolumes, List.map_map]
    rfl
  have hvolumes : (statefulSet lower vc).volumes.map (·.name) =
      Webhook.reservedVolumeNames ++
        ((provisionedFileStorages lower vc.spec.storage).map (·.volume) ++
          vc.spec.pod.volumes) := by
    rw [← hprovisioned, ← huser, ← List.map_append, ← operatorVolumes_names vc, ← List.map_append]
    rfl
  rw [StatefulSet.volumeNames, hvolumes, Webhook.declaredVolumes, List.append_assoc,
    List.append_assoc]
  rfl

/-- The mounts of varnishd's container: the operator's, the provisioned ones and the user's. -/
lemma varnishContainer_mountPaths :
    mountPaths lower vc =
      operatorMounts.map (·.mountPath) ++
        ((provisionedFileStorages lower vc.spec.storage).map (·.mountPath) ++
          vc.spec.pod.volumeMounts.map (·.mountPath)) := by
  have hprovisioned : ∀ ps, (fileStorageMounts ps).map (·.mountPath) = ps.map (·.mountPath) := by
    intro ps
    rw [fileStorageMounts, List.map_map]
    rfl
  rw [← hprovisioned, ← List.map_append, ← List.map_append]
  rfl

/-- A provisioned volume is named after its storage. -/
lemma prefix_fileStorageVolumeName (name : Text) :
    ("storage-" : Text) <+: fileStorageVolumeName lower name := by
  unfold fileStorageVolumeName
  dsimp only
  split_ifs
  · exact List.prefix_append _ _
  · rw [List.append_assoc, List.append_assoc]
    exact List.prefix_append _ _

end Names

end CloudVinyl.Controller
