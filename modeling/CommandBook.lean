import CommandBook.Main
import CommandBook.Proofs.Command.Tree
import CommandBook.Proofs.CommandLine.Arguments
import CommandBook.Proofs.CommandLine.Dispatch
import CommandBook.Proofs.CommandLine.Extension
import CommandBook.Proofs.CommandLine.Naming
import CommandBook.Proofs.Invocation.Atomicity
import CommandBook.Proofs.Invocation.Containment
import CommandBook.Proofs.Invocation.History
import CommandBook.Proofs.Invocation.Order
import CommandBook.Proofs.Invocation.Overridden
import CommandBook.Proofs.Invocation.Shape
import CommandBook.Proofs.Invocation.Verbatim
import CommandBook.Proofs.Session.Memory
import CommandBook.Proofs.Command.Partition
import CommandBook.Proofs.Lockstep
import CommandBook.Proofs.Invocation.Mentioned
import CommandBook.Proofs.CommandLine.Rejection
import CommandBook.Proofs.CommandLine.Help
import CommandBook.Proofs.Command.Name
import CommandBook.Proofs.Invocation.Endpoint
import CommandBook.Proofs.Invocation.Verbose
import CommandBook.Proofs.Invocation.Reports
import CommandBook.Proofs.Response.Location
import CommandBook.Proofs.Template.Repeated
import CommandBook.Proofs.Template.Wording
import CommandBook.Proofs.Config.Variables
import CommandBook.Proofs.Invocation.Headers
import CommandBook.Proofs.Response.Totality
import CommandBook.Proofs.Config.Failures
import CommandBook.Proofs.Session.Contents
import CommandBook.Proofs.CommandLine.Warnings
