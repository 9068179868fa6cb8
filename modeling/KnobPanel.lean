import KnobPanel.Controller
import KnobPanel.Display.Panel
import KnobPanel.Hardware.ClimateSensor
import KnobPanel.Hardware.Eeprom
import KnobPanel.Hardware.LightingBus
import KnobPanel.Proofs.InterruptedSave
import KnobPanel.Proofs.Lights
import KnobPanel.Proofs.Traffic
import KnobPanel.Proofs.Ticks
import KnobPanel.Proofs.AutoOffOnce
import KnobPanel.Proofs.TruthfulMarks
import KnobPanel.Proofs.Waking
import KnobPanel.Proofs.ChannelHistory
import KnobPanel.Proofs.SettingsShown
import KnobPanel.Proofs.Frames
import KnobPanel.Proofs.SettingsSaved
import KnobPanel.Proofs.ClockShift
import KnobPanel.Proofs.Rollover
import KnobPanel.Proofs.MenuWindow
import KnobPanel.Proofs.Coherence
import KnobPanel.Proofs.DisplayModes
import KnobPanel.Proofs.LegalTraffic
import KnobPanel.Proofs.TickLog
import KnobPanel.Proofs.ReplayOrder
import KnobPanel.Proofs.PoliteSends
import KnobPanel.Proofs.DarkDisplay
import KnobPanel.Proofs.Reports
import KnobPanel.Proofs.KeyReports
import KnobPanel.Proofs.PagedWrite
import KnobPanel.Proofs.RecordOnEeprom
import KnobPanel.Proofs.FunctionKey
import KnobPanel.Proofs.MachineWords
import KnobPanel.Proofs.LineWalk
import KnobPanel.Proofs.CheckedBoard
import KnobPanel.Proofs.CheckedArt
import KnobPanel.Proofs.CheckedMenus
import KnobPanel.Proofs.CheckedScreens
import KnobPanel.Proofs.CheckedRuns
import KnobPanel.Proofs.CanonicalPayloads
import KnobPanel.Proofs.SaveOutcomes
import KnobPanel.Proofs.SliderBursts
import KnobPanel.Proofs.LiveLists
import KnobPanel.Proofs.PassedOn
import KnobPanel.Proofs.AutoReturn
import KnobPanel.Proofs.AutoOffVerdict
import KnobPanel.Proofs.PomodoroPhases
import KnobPanel.Proofs.PomodoroTimeline
import KnobPanel.Proofs.TypingRate
import KnobPanel.Proofs.PolledRate
import KnobPanel.Proofs.LineShape
import KnobPanel.Proofs.StarFrames
import KnobPanel.Proofs.TypedRows
import KnobPanel.Proofs.MenuRows
import KnobPanel.Proofs.FastDetents
import KnobPanel.Proofs.ConfinedDrawing
import KnobPanel.Proofs.CellPictures
import KnobPanel.Proofs.CurrentLines
import KnobPanel.Proofs.FaultedWrite
import KnobPanel.Proofs.LedChain
import KnobPanel.Proofs.ClimateFrames
import KnobPanel.Proofs.PawOverlay
import KnobPanel.Proofs.ProportionalBar
import KnobPanel.Proofs.ScrollThumb
