import SessionGate.Cluster.Shape.Container

/-!
# Volumes

The shape of a volume of a pod: a name and one of many sources.
-/
namespace SessionGate.Cluster
set_option autoImplicit false

/-! ## Sources inside the cluster -/

def keyPaths : Shape :=
  .list (.fields [("key", .text), ("mode", .int32), ("path", .text)])

def downwardItems : Shape :=
  .list (.fields [("fieldRef", fieldReference), ("mode", .int32), ("path", .text),
    ("resourceFieldRef", resourceFieldReference)])

def projection : Shape :=
  .fields [("clusterTrustBundle", .fields [("labelSelector", labelSelector), ("name", .text),
      ("optional", .flag), ("path", .text), ("signerName", .text)]),
    ("configMap", .fields [("items", keyPaths), ("name", .text), ("optional", .flag)]),
    ("downwardAPI", .fields [("items", downwardItems)]),
    ("secret", .fields [("items", keyPaths), ("name", .text), ("optional", .flag)]),
    ("serviceAccountToken", .fields [("audience", .text), ("expirationSeconds", .int64),
      ("path", .text)])]

def claimSpec : Shape :=
  .fields [("accessModes", .texts),
    ("dataSource", .fields [("apiGroup", .text), ("kind", .text), ("name", .text)]),
    ("dataSourceRef", .fields [("apiGroup", .text), ("kind", .text), ("name", .text),
      ("namespace", .text)]),
    ("resources", .fields [("limits", .quantities), ("requests", .quantities)]),
    ("selector", labelSelector), ("storageClassName", .text),
    ("volumeAttributesClassName", .text), ("volumeMode", .text), ("volumeName", .text)]

def clusterSources : List (String × Shape) :=
  [("configMap", .fields [("defaultMode", .int32), ("items", keyPaths), ("name", .text),
      ("optional", .flag)]),
    ("downwardAPI", .fields [("defaultMode", .int32), ("items", downwardItems)]),
    ("emptyDir", .fields [("medium", .text), ("sizeLimit", .text)]),
    ("ephemeral", .fields [("volumeClaimTemplate", .fields [("metadata", objectMeta),
      ("spec", claimSpec)])]),
    ("gitRepo", .fields [("directory", .text), ("repository", .text), ("revision", .text)]),
    ("hostPath", .fields [("path", .text), ("type", .text)]),
    ("image", .fields [("pullPolicy", .text), ("reference", .text)]),
    ("persistentVolumeClaim", .fields [("claimName", .text), ("readOnly", .flag)]),
    ("projected", .fields [("defaultMode", .int32), ("sources", .list projection)]),
    ("secret", .fields [("defaultMode", .int32), ("items", keyPaths), ("optional", .flag),
      ("secretName", .text)])]

/-! ## Sources outside the cluster -/

def diskSources : List (String × Shape) :=
  [("awsElasticBlockStore", .fields [("fsType", .text), ("partition", .int32),
      ("readOnly", .flag), ("volumeID", .text)]),
    ("azureDisk", .fields [("cachingMode", .text), ("diskName", .text), ("diskURI", .text),
      ("fsType", .text), ("kind", .text), ("readOnly", .flag)]),
    ("cinder", .fields [("fsType", .text), ("readOnly", .flag), ("secretRef", reference),
      ("volumeID", .text)]),
    ("fc", .fields [("fsType", .text), ("lun", .int32), ("readOnly", .flag),
      ("targetWWNs", .texts), ("wwids", .texts)]),
    ("gcePersistentDisk", .fields [("fsType", .text), ("partition", .int32), ("pdName", .text),
      ("readOnly", .flag)]),
    ("iscsi", .fields [("chapAuthDiscovery", .flag), ("chapAuthSession", .flag),
      ("fsType", .text), ("initiatorName", .text), ("iqn", .text), ("iscsiInterface", .text),
      ("lun", .int32), ("portals", .texts), ("readOnly", .flag), ("secretRef", reference),
      ("targetPortal", .text)]),
    ("photonPersistentDisk", .fields [("fsType", .text), ("pdID", .text)]),
    ("rbd", .fields [("fsType", .text), ("image", .text), ("keyring", .text),
      ("monitors", .texts), ("pool", .text), ("readOnly", .flag), ("secretRef", reference),
      ("user", .text)]),
    ("vsphereVolume", .fields [("fsType", .text), ("storagePolicyID", .text),
      ("storagePolicyName", .text), ("volumePath", .text)])]

def storeSources : List (String × Shape) :=
  [("azureFile", .fields [("readOnly", .flag), ("secretName", .text), ("shareName", .text)]),
    ("cephfs", .fields [("monitors", .texts), ("path", .text), ("readOnly", .flag),
      ("secretFile", .text), ("secretRef", reference), ("user", .text)]),
    ("csi", .fields [("driver", .text), ("fsType", .text), ("nodePublishSecretRef", reference),
      ("readOnly", .flag), ("volumeAttributes", .labels)]),
    ("flexVolume", .fields [("driver", .text), ("fsType", .text), ("options", .labels),
      ("readOnly", .flag), ("secretRef", reference)]),
    ("flocker", .fields [("datasetName", .text), ("datasetUUID", .text)]),
    ("glusterfs", .fields [("endpoints", .text), ("path", .text), ("readOnly", .flag)]),
    ("nfs", .fields [("path", .text), ("readOnly", .flag), ("server", .text)]),
    ("portworxVolume", .fields [("fsType", .text), ("readOnly", .flag), ("volumeID", .text)]),
    ("quobyte", .fields [("group", .text), ("readOnly", .flag), ("registry", .text),
      ("tenant", .text), ("user", .text), ("volume", .text)]),
    ("scaleIO", .fields [("fsType", .text), ("gateway", .text), ("protectionDomain", .text),
      ("readOnly", .flag), ("secretRef", reference), ("sslEnabled", .flag),
      ("storageMode", .text), ("storagePool", .text), ("system", .text), ("volumeName", .text)]),
    ("storageos", .fields [("fsType", .text), ("readOnly", .flag), ("secretRef", reference),
      ("volumeName", .text), ("volumeNamespace", .text)])]

def volume : Shape :=
  .fields (("name", .text) :: clusterSources ++ diskSources ++ storeSources)

end SessionGate.Cluster
