import CodePush.Updater.CrashLoop
import CodePush.Updater.Pruning
import CodePush.Updater.RollbackLog
import CodePush.Updater.Launches
import CodePush.Server.OwnerConcurrency
import CodePush.Compiler.Acceptance
import CodePush.Reader.Bodies
import CodePush.Server.UploadConcurrency
import CodePush.Server.PromotionConcurrency
import CodePush.Server.SetupConcurrency
import CodePush.Server.UploadRetries
import CodePush.Linker.Identity
import CodePush.Linker.PlanProperties
import CodePush.Core.SigningProperties
import CodePush.Updater.SingleFlight
import CodePush.Updater.Cancellation
import CodePush.Bytecode.AotTargets
import CodePush.Bytecode.ModuleWriterProperties
import CodePush.Updater.InstallSteps
import CodePush.Updater.FailedInstall
import CodePush.Updater.Reinstall
import CodePush.Server.Rollout
import CodePush.Server.Storage
import CodePush.Server.UploadAtomicity
import CodePush.Server.StorageKeys
import CodePush.Server.OrgMigration
import CodePush.Foundation.Base64
import CodePush.Updater.ClientRetries
import CodePush.Core.DiffProperties
import CodePush.Updater.PublicKeys
import CodePush.Cli.SecureServer
import CodePush.Updater.FailedInit
import CodePush.Cli.KeyPins
import CodePush.Cli.BuildCache
import CodePush.Cli.DiffBase
import CodePush.Reader.TypeNames
import CodePush.Foundation.ControlFlow
import CodePush.Compiler.Occurrences
import CodePush.Compiler.OperandOrder
import CodePush.Bytecode.ConstantPool
import CodePush.Cli.Inspection
import CodePush.Cli.AotEntryPoints
import CodePush.Cli.AotEntryIds
import CodePush.Compiler.Scopes
import CodePush.Cli.TreeHash
import CodePush.Core.OpenSsh
import CodePush.Cli.SigningKeys
import CodePush.Cli.ToolCache
import CodePush.Cli.CompiledTool
import CodePush.Compiler.ControlExecution
import CodePush.Compiler.ExpressionExecution
import CodePush.Compiler.FunctionExecution
import CodePush.Reader.BodyExecution
import CodePush.System.PatchArrival
import CodePush.System.ShippedPatches
