import EnvOperator.Json.Codec

/-! # Stages of the pipeline

The pipeline builds an image, checks that it has reached the registry, applies
the workload and waits for its replicas. Three stages are failure sinks. A name
that belongs to no stage means the last of them.
-/
namespace EnvOperator

inductive Stage
  | initial
  | buildImage
  | buildImageWait
  | buildImageFailing
  | buildImageVerify
  | deploy
  | deployVerify
  | deployed
  | buildImageFailed
  | deploymentFailed
  | failed
deriving DecidableEq

namespace Stage

/-- The stages in pipeline order, then the failure sinks. -/
def all : List Stage :=
  [initial, buildImage, buildImageWait, buildImageFailing, buildImageVerify, deploy, deployVerify,
    deployed, buildImageFailed, deploymentFailed, failed]

def name : Stage → String
  | initial => "Initialize"
  | buildImage => "BuildImage"
  | buildImageWait => "BuildImageWait"
  | buildImageFailing => "BuildImageFailing"
  | buildImageVerify => "BuildImageVerify"
  | deploy => "Deploy"
  | deployVerify => "DeployVerify"
  | deployed => "Deployed"
  | buildImageFailed => "BuildImageFailed"
  | deploymentFailed => "DeploymentFailed"
  | failed => "Failed"

def ofName (s : String) : Stage := (all.find? (fun stage => stage.name == s)).getD failed

/-- What people who watch an environment are shown. -/
def description : Stage → String
  | initial => "Initializing"
  | buildImage => "Starting image build"
  | buildImageWait => "Building image"
  | buildImageFailing => "Image build is failing, retrying"
  | buildImageVerify => "Verifying image"
  | deploy => "Deploying"
  | deployVerify => "Waiting for replicas"
  | deployed => "Deployed"
  | buildImageFailed => "Image build failed"
  | deploymentFailed => "Deployment failed"
  | failed => "Failed"

def isFailure : Stage → Bool
  | buildImageFailed | deploymentFailed | failed => true
  | _ => false

/-- Stages that follow outside progress and may last many passes. -/
def isWaiting : Stage → Bool
  | buildImageWait | buildImageFailing | deployVerify => true
  | _ => false

def index (s : Stage) : Nat := all.idxOf s

@[simp] theorem ofName_name (s : Stage) : ofName s.name = s := by cases s <;> decide

def codec : Codec Stage := Codec.string.imap ofName name

end Stage
end EnvOperator
