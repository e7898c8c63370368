import LuaHost.CommandLine
import LuaHost.Config.Basic
import LuaHost.Config.Document
import LuaHost.Config.File
import LuaHost.Data.Basic
import LuaHost.Data.Json
import LuaHost.Data.Toml
import LuaHost.Decimal.Binary
import LuaHost.Decimal.General
import LuaHost.Decimal.Reading
import LuaHost.Decimal.Shortest
import LuaHost.Engine
import LuaHost.Event
import LuaHost.Failure.Basic
import LuaHost.Failure.Frame
import LuaHost.Failure.Location
import LuaHost.Failure.Traceback
import LuaHost.FileTree
import LuaHost.Host
import LuaHost.Lua.Chunk
import LuaHost.Lua.Error
import LuaHost.Lua.Heap
import LuaHost.Lua.Lexer
import LuaHost.Lua.Library
import LuaHost.Lua.Machine
import LuaHost.Lua.Native
import LuaHost.Lua.Number
import LuaHost.Lua.Operation
import LuaHost.Lua.Parser
import LuaHost.Lua.Parser.State
import LuaHost.Lua.Stack
import LuaHost.Lua.Syntax
import LuaHost.Lua.Token
import LuaHost.Lua.Value
import LuaHost.Main
import LuaHost.Module.Basic
import LuaHost.Module.Core
import LuaHost.Module.Entry
import LuaHost.Module.Planned
import LuaHost.Module.Registry
import LuaHost.Module.Sum
import LuaHost.Report.Basic
import LuaHost.Report.Context
import LuaHost.Report.Diagnostics
import LuaHost.Report.Hint
import LuaHost.Report.Json
import LuaHost.Report.Source
import LuaHost.Report.Stack
import LuaHost.Script
import LuaHost.Text.Basic
import LuaHost.Text.Path
import LuaHost.Text.Printable
import LuaHost.Text.Quoted
import LuaHost.Text.Search
import LuaHost.Text.Timestamp
import LuaHost.Proofs.Registry.Pass
import LuaHost.Proofs.Registry.Order
import LuaHost.Proofs.Registry.Run
import LuaHost.Proofs.Registry.States
import LuaHost.Proofs.Registry.Names
import LuaHost.Proofs.Registry.Lifecycle
import LuaHost.Proofs.Registry.Failures
import LuaHost.Proofs.Registry.Isolation
import LuaHost.Proofs.Registry.Sweep
import LuaHost.Proofs.Registry.FailureLog
import LuaHost.Proofs.Registry.Registration
import LuaHost.Proofs.Registry.LateRegistration
import LuaHost.Proofs.Text.Numeral
import LuaHost.Proofs.Data.Edited
import LuaHost.Proofs.Failure.Location
import LuaHost.Proofs.Failure.Decoration
import LuaHost.Proofs.Text.Search
import LuaHost.Proofs.Failure.Traceback
import LuaHost.Proofs.Failure.Position
import LuaHost.Proofs.Report.CallingLine
import LuaHost.Proofs.Report.Window
import LuaHost.Proofs.Report.MarkedLine
import LuaHost.Proofs.Script
import LuaHost.Proofs.Lua.Speech
import LuaHost.Proofs.Report.Log
import LuaHost.Proofs.Host.Run
import LuaHost.Proofs.Host.Reports
import LuaHost.Proofs.Failure.Stack
import LuaHost.Proofs.Report.ShownLines
import LuaHost.Proofs.Host.Sequence
import LuaHost.Proofs.Host.Window
import LuaHost.Proofs.Program.Session
import LuaHost.Proofs.Program.Output
import LuaHost.Proofs.Config.File
import LuaHost.Proofs.Config.Document
import LuaHost.Proofs.Program.Settings
import LuaHost.Proofs.Report.Identifier
import LuaHost.Proofs.Report.Hints
import LuaHost.Proofs.Host.Unreadable
import LuaHost.Proofs.Program.Ticks
import LuaHost.Proofs.Host.Startup
import LuaHost.Proofs.Report.Layout
import LuaHost.Proofs.Data.Json
import LuaHost.Proofs.Report.Json
import LuaHost.Proofs.Lua.Quiet
import LuaHost.Proofs.Lua.Natives
import LuaHost.Proofs.Lua.LogCall
import LuaHost.Proofs.Module.Core
import LuaHost.Proofs.Module.Messages
