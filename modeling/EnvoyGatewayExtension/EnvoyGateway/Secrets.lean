import EnvoyGatewayExtension.EnvoyGateway.Constants
import EnvoyGatewayExtension.Kubernetes.Manifests

namespace EnvoyGatewayExtension.EnvoyGateway

open Kubernetes

inductive CertType
  | caCert
  | serverCert
  | clientCert
  deriving DecidableEq, Repr

inductive SecretConfig
  | certificate (name commonName : String) (dnsNames : List String) (certType : CertType)
      (skipPublishingCACertificate : Bool)
  | hmac (name : String)
  deriving DecidableEq, Repr

def SecretConfig.getName : SecretConfig → String
  | certificate name _ _ _ _ => name
  | hmac name => name

inductive GenerateOption
  | persist
  | signedByCA (name : String)
  deriving DecidableEq, Repr

structure SecretConfigWithOptions where
  config : SecretConfig
  options : List GenerateOption
  deriving DecidableEq, Repr

def secretConfigs : List SecretConfigWithOptions :=
  [⟨.certificate caSecretName caSecretName [] .caCert false, [.persist]⟩,
    ⟨.certificate xdsServerCertSecretName deploymentName
      [deploymentName, deploymentName ++ "." ++ «namespace», deploymentName ++ "." ++
        «namespace» ++ ".svc"]
      .serverCert true, [.signedByCA caSecretName]⟩,
    ⟨.certificate envoyClientCertSecretName envoySecretName [] .clientCert true,
      [.signedByCA caSecretName]⟩,
    ⟨.hmac hmacSecretName, [.persist]⟩]

def dataKeyCertificate : String := "tls.crt"
def dataKeyPrivateKey : String := "tls.key"
def dataKeyCertificateCA : String := "ca.crt"

structure TLSBundle where
  certPEM : Bytes := []
  keyPEM : Bytes := []
  caPEM : Bytes := []
  clientCertPEM : Bytes := []
  clientKeyPEM : Bytes := []
  hmacBytes : Bytes := []
  deriving DecidableEq

end EnvoyGatewayExtension.EnvoyGateway
